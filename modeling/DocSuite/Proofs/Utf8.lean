import DocSuite.Proofs.Result
import DocSuite.Text.Utf8

/-!
Encoding and decoding. Main statements: the characters of the encoding of a text are the
text, bytes that can be decoded are the encoding of what they are decoded to, and the first bytes
of an encoding can be decoded exactly if they split no character.
-/
namespace DocSuite.Text

theorem toNat_ofNat {n : Nat} (h : n.isValidChar) : (Char.ofNat n).toNat = n := by
  rw [Char.ofNat, dif_pos h]
  rfl

namespace Utf8

theorem width_pos (c : Char) : 0 < width c := by
  simp only [width, encodeChar]
  split
  · exact Nat.one_pos
  · split
    · exact Nat.two_pos
    · split <;> exact Nat.succ_pos _

@[simp] theorem encode_nil : encode [] = [] := rfl

@[simp] theorem encode_append (as bs : List Char) : encode (as ++ bs) = encode as ++ encode bs :=
  List.flatMap_append

theorem encode_cons (c : Char) (cs : List Char) : encode (c :: cs) = encodeChar c ++ encode cs :=
  List.flatMap_cons

theorem size_cons (c : Char) (cs : List Char) : size (c :: cs) = width c + size cs := by
  simp [size, width, encode_cons]

/-- The code points of characters: no surrogates, none beyond the last. -/
theorem toNat_valid (c : Char) : c.toNat < 0xD800 ∨ (0xDFFF < c.toNat ∧ c.toNat < 0x110000) :=
  c.valid

/-! ### Decoding by the first byte -/

theorem decodeFrom_one {start a : Nat} (ha : a < 0x80) (rest : List Nat) :
    decodeFrom start (a :: rest) = (decodeFrom (start + 1) rest).map (Char.ofNat a :: ·) := by
  have h1 : announced a = 1 := by simp [announced, ha]
  cases rest with
  | nil => simp [decodeFrom, h1, Except.map]
  | cons b rest =>
    rw [decodeFrom.eq_def]
    dsimp only
    rw [if_pos h1]
    cases decodeFrom (start + 1) (b :: rest) <;> rfl

theorem decodeFrom_two {start a b : Nat} (ha : 0xC2 ≤ a ∧ a < 0xE0) (hb : 0x80 ≤ b ∧ b ≤ 0xBF)
    (rest : List Nat) : decodeFrom start (a :: b :: rest) =
      (decodeFrom (start + 2) rest).map (Char.ofNat (a % 32 * 64 + b % 64) :: ·) := by
  have h1 : announced a = 2 := by
    simp only [announced]
    rw [if_neg (by omega), if_neg (by omega), if_pos ha.2]
  have h2 : isSecond a b = true := by
    simp only [isSecond, isContinuation]
    rw [if_neg (by omega), if_neg (by omega), if_neg (by omega), if_neg (by omega)]
    simp [hb]
  rw [decodeFrom.eq_def]
  dsimp only
  rw [if_neg (by omega), if_neg (by omega), if_neg (by simp [h2]), if_pos h1]
  cases decodeFrom (start + 2) rest <;> rfl

theorem decodeFrom_three {start a b c : Nat} (ha : 0xE0 ≤ a ∧ a < 0xF0)
    (hb : isSecond a b = true) (hc : 0x80 ≤ c ∧ c ≤ 0xBF) (rest : List Nat) :
    decodeFrom start (a :: b :: c :: rest) = (decodeFrom (start + 3) rest).map
      (Char.ofNat (a % 16 * 4096 + b % 64 * 64 + c % 64) :: ·) := by
  have h1 : announced a = 3 := by
    simp only [announced]
    rw [if_neg (by omega), if_neg (by omega), if_neg (by omega), if_pos ha.2]
  have h2 : isContinuation c = true := by simp [isContinuation, hc]
  rw [decodeFrom.eq_def]
  dsimp only
  rw [if_neg (by omega), if_neg (by omega), if_neg (by simp [hb]), if_neg (by omega),
    if_neg (by simp [h2]), if_pos h1]
  cases decodeFrom (start + 3) rest <;> rfl

theorem decodeFrom_four {start a b c d : Nat} (ha : 0xF0 ≤ a ∧ a < 0xF5)
    (hb : isSecond a b = true) (hc : 0x80 ≤ c ∧ c ≤ 0xBF) (hd : 0x80 ≤ d ∧ d ≤ 0xBF)
    (rest : List Nat) : decodeFrom start (a :: b :: c :: d :: rest) =
      (decodeFrom (start + 4) rest).map
        (Char.ofNat (a % 8 * 262144 + b % 64 * 4096 + c % 64 * 64 + d % 64) :: ·) := by
  have h1 : announced a = 4 := by
    simp only [announced]
    rw [if_neg (by omega), if_neg (by omega), if_neg (by omega), if_neg (by omega), if_pos ha.2]
  have h2 : isContinuation c = true := by simp [isContinuation, hc]
  have h3 : isContinuation d = true := by simp [isContinuation, hd]
  rw [decodeFrom.eq_def]
  dsimp only
  rw [if_neg (by omega), if_neg (by omega), if_neg (by simp [hb]), if_neg (by omega),
    if_neg (by simp [h2]), if_neg (by omega), if_neg (by simp [h3])]
  cases decodeFrom (start + 4) rest <;> rfl

/-! ### Decoding what was encoded -/

theorem decodeFrom_encodeChar (start : Nat) (c : Char) (rest : List Nat) :
    decodeFrom start (encodeChar c ++ rest) =
      (decodeFrom (start + width c) rest).map (c :: ·) := by
  have hv := toNat_valid c
  have hc : Char.ofNat c.toNat = c := Char.ofNat_toNat c
  simp only [width, encodeChar]
  generalize c.toNat = n at hv hc ⊢
  split
  next h =>
    rw [List.singleton_append, decodeFrom_one h, hc]
    rfl
  next h =>
    split
    next h2 =>
      have he : (0xC0 + n / 64) % 32 * 64 + (0x80 + n % 64) % 64 = n := by omega
      simp only [List.cons_append, List.nil_append]
      rw [decodeFrom_two (by omega) (by omega), he, hc]
      rfl
    next h2 =>
      split
      next h3 =>
        have he : (0xE0 + n / 4096) % 16 * 4096 + (0x80 + n / 64 % 64) % 64 * 64 +
            (0x80 + n % 64) % 64 = n := by omega
        have hs : isSecond (0xE0 + n / 4096) (0x80 + n / 64 % 64) = true := by
          simp only [isSecond, isContinuation]
          split
          · simp only [Bool.and_eq_true, decide_eq_true_eq]
            omega
          · split
            · simp only [Bool.and_eq_true, decide_eq_true_eq]
              omega
            · rw [if_neg (by omega), if_neg (by omega)]
              simp only [Bool.and_eq_true, decide_eq_true_eq]
              omega
        simp only [List.cons_append, List.nil_append]
        rw [decodeFrom_three (by omega) hs (by omega), he, hc]
        rfl
      next h3 =>
        have he : (0xF0 + n / 262144) % 8 * 262144 + (0x80 + n / 4096 % 64) % 64 * 4096 +
            (0x80 + n / 64 % 64) % 64 * 64 + (0x80 + n % 64) % 64 = n := by omega
        have hs : isSecond (0xF0 + n / 262144) (0x80 + n / 4096 % 64) = true := by
          simp only [isSecond, isContinuation]
          rw [if_neg (by omega), if_neg (by omega)]
          split
          · simp only [Bool.and_eq_true, decide_eq_true_eq]
            omega
          · split
            · simp only [Bool.and_eq_true, decide_eq_true_eq]
              omega
            · simp only [Bool.and_eq_true, decide_eq_true_eq]
              omega
        simp only [List.cons_append, List.nil_append]
        rw [decodeFrom_four (by omega) hs (by omega) (by omega), he, hc]
        rfl

theorem decodeFrom_encode (start : Nat) (cs : List Char) :
    decodeFrom start (encode cs) = .ok cs := by
  induction cs generalizing start with
  | nil => rfl
  | cons c cs ih =>
    rw [encode_cons, decodeFrom_encodeChar, ih]
    rfl

/-- The characters of the encoding of a text are the text. -/
theorem decode_encode (cs : List Char) : decode (encode cs) = .ok cs := decodeFrom_encode 0 cs

/-! ### Encoding what was decoded -/

theorem announced_of_le {a : Nat} (h : 0x80 ≤ a) : announced a ≠ 1 := by
  simp only [announced]
  repeat' split
  all_goals omega

theorem announced_of_three_le {a : Nat} (h : 0xE0 ≤ a) : announced a ≠ 2 := by
  simp only [announced]
  repeat' split
  all_goals omega

theorem announced_of_four_le {a : Nat} (h : 0xF0 ≤ a) : announced a ≠ 3 := by
  simp only [announced]
  repeat' split
  all_goals omega

theorem announced_eq_one {a : Nat} (h : announced a = 1) : a < 0x80 :=
  Nat.lt_of_not_le fun hle => announced_of_le hle h

theorem announced_eq_two {a : Nat} (h : announced a = 2) : 0xC2 ≤ a ∧ a < 0xE0 := by
  simp only [announced] at h
  repeat' split at h
  all_goals omega

theorem announced_eq_three {a : Nat} (h : announced a = 3) : 0xE0 ≤ a ∧ a < 0xF0 := by
  simp only [announced] at h
  repeat' split at h
  all_goals omega

theorem four_le_announced {a : Nat} (h : 4 ≤ announced a) : 0xF0 ≤ a ∧ a < 0xF5 := by
  simp only [announced] at h
  repeat' split at h
  all_goals omega

theorem isContinuation_iff {b : Nat} : isContinuation b = true ↔ 0x80 ≤ b ∧ b ≤ 0xBF := by
  simp [isContinuation]

/-- Second bytes are continuation bytes, in a range that the lead byte may narrow. -/
theorem isSecond_bounds {a b : Nat} (h : isSecond a b = true) : (0x80 ≤ b ∧ b ≤ 0xBF) ∧
    (a = 0xE0 → 0xA0 ≤ b) ∧ (a = 0xED → b ≤ 0x9F) ∧ (a = 0xF0 → 0x90 ≤ b) ∧
      (a = 0xF4 → b ≤ 0x8F) := by
  simp only [isSecond, isContinuation] at h
  repeat' split at h
  all_goals
    simp only [Bool.and_eq_true, decide_eq_true_eq] at h
    omega

theorem encodeChar_ofNat_one {a : Nat} (ha : announced a = 1) :
    encodeChar (Char.ofNat a) = [a] := by
  have hlt := announced_eq_one ha
  rw [encodeChar, toNat_ofNat (.inl (by omega)), if_pos hlt]

theorem encodeChar_ofNat_two {a b : Nat} (ha : announced a = 2) (hb : isSecond a b = true) :
    encodeChar (Char.ofNat (a % 32 * 64 + b % 64)) = [a, b] := by
  have hlead := announced_eq_two ha
  obtain ⟨hsecond, -⟩ := isSecond_bounds hb
  rw [encodeChar, toNat_ofNat (.inl (by omega)), if_neg (by omega), if_pos (by omega)]
  congr 1
  · omega
  · congr 1
    omega

theorem encodeChar_ofNat_three {a b c : Nat} (ha : announced a = 3) (hb : isSecond a b = true)
    (hc : isContinuation c = true) :
    encodeChar (Char.ofNat (a % 16 * 4096 + b % 64 * 64 + c % 64)) = [a, b, c] := by
  have hlead := announced_eq_three ha
  obtain ⟨hsecond, hoverlong, hsurrogate, -⟩ := isSecond_bounds hb
  have hthird := isContinuation_iff.mp hc
  have hvalid : (a % 16 * 4096 + b % 64 * 64 + c % 64).isValidChar := by
    simp only [Nat.isValidChar]
    omega
  rw [encodeChar, toNat_ofNat hvalid, if_neg (by omega), if_neg (by omega), if_pos (by omega)]
  congr 1
  · omega
  · congr 1
    · omega
    · congr 1
      omega

theorem encodeChar_ofNat_four {a b c d : Nat} (ha : 0xF0 ≤ a ∧ a < 0xF5)
    (hb : isSecond a b = true) (hc : isContinuation c = true) (hd : isContinuation d = true) :
    encodeChar (Char.ofNat (a % 8 * 262144 + b % 64 * 4096 + c % 64 * 64 + d % 64)) =
      [a, b, c, d] := by
  obtain ⟨hsecond, -, -, hoverlong, hlast⟩ := isSecond_bounds hb
  have hthird := isContinuation_iff.mp hc
  have hfourth := isContinuation_iff.mp hd
  have hvalid : (a % 8 * 262144 + b % 64 * 4096 + c % 64 * 64 + d % 64).isValidChar := by
    simp only [Nat.isValidChar]
    omega
  rw [encodeChar, toNat_ofNat hvalid, if_neg (by omega), if_neg (by omega), if_neg (by omega)]
  congr 1
  · omega
  · congr 1
    · omega
    · congr 1
      · omega
      · congr 1
        omega

theorem cons_of_bind {x : Except Fault (List Char)} {c : Char} {text : List Char}
    (h : (do return c :: (← x)) = Except.ok text) : ∃ rest, x = .ok rest ∧ text = c :: rest := by
  cases x with
  | error fault => cases h
  | ok rest => exact ⟨rest, rfl, (Except.ok.inj h).symm⟩

theorem encode_of_decodeFrom {start : Nat} {bytes : List Nat} {text : List Char}
    (h : decodeFrom start bytes = .ok text) : encode text = bytes := by
  fun_induction decodeFrom start bytes generalizing text with
  | case1 =>
    obtain rfl := Except.ok.inj h
    rfl
  | case2 _ _ h1 =>
    obtain rfl := Except.ok.inj h
    rw [encode_cons, encodeChar_ofNat_one h1, encode_nil, List.append_nil]
  | case5 _ a b rest h1 ih =>
    obtain ⟨text, htext, rfl⟩ := cons_of_bind h
    rw [encode_cons, encodeChar_ofNat_one h1, ih htext, List.singleton_append]
  | case8 _ a b rest _ _ hb h2 ih =>
    obtain ⟨text, htext, rfl⟩ := cons_of_bind h
    rw [encode_cons, encodeChar_ofNat_two h2 (by simpa using hb), ih htext]
    rfl
  | case11 _ a b _ _ hb _ c rest hc h3 ih =>
    obtain ⟨text, htext, rfl⟩ := cons_of_bind h
    rw [encode_cons, encodeChar_ofNat_three h3 (by simpa using hb) (by simpa using hc), ih htext]
    rfl
  | case14 _ a b h1 h0 hb h2 c hc h3 d rest hd ih =>
    obtain ⟨text, htext, rfl⟩ := cons_of_bind h
    rw [encode_cons, encodeChar_ofNat_four (four_le_announced (by omega)) (by simpa using hb)
      (by simpa using hc) (by simpa using hd), ih htext]
    rfl
  | _ => cases h

/-- Bytes can be decoded exactly if they are the encoding of a text. -/
theorem decode_eq_ok_iff {bytes : List Nat} {text : List Char} :
    decode bytes = .ok text ↔ bytes = encode text :=
  ⟨fun h => (encode_of_decodeFrom h).symm, fun h => by rw [h, decode_encode]⟩

/-! ### Decoding what was cut -/

/-- The first bytes of a text are those of whole characters. -/
def Cuts (cs : List Char) (count : Nat) : Prop :=
  ∃ read, read <+: cs ∧ (encode cs).take count = encode read

theorem not_succeeds_decodeFrom_one {start a : Nat} (ha : 0x80 ≤ a) :
    ¬ Succeeds (decodeFrom start [a]) := by
  have h1 := announced_of_le ha
  simp only [decodeFrom, if_neg h1]
  split <;> simp

theorem not_succeeds_decodeFrom_two {start a b : Nat} (ha : 0xE0 ≤ a) :
    ¬ Succeeds (decodeFrom start [a, b]) := by
  have h1 := announced_of_le (a := a) (by omega)
  have h2 := announced_of_three_le ha
  simp only [decodeFrom, if_neg h1, if_neg h2]
  split
  · simp
  · split <;> simp

theorem not_succeeds_decodeFrom_three {start a b c : Nat} (ha : 0xF0 ≤ a) :
    ¬ Succeeds (decodeFrom start [a, b, c]) := by
  have h1 := announced_of_le (a := a) (by omega)
  have h2 := announced_of_three_le (a := a) (by omega)
  have h3 := announced_of_four_le ha
  simp only [decodeFrom, if_neg h1, if_neg h2, if_neg h3]
  split
  · simp
  · split
    · simp
    · split <;> simp

theorem not_succeeds_decodeFrom_take {start count : Nat} {c : Char} (hpos : 0 < count)
    (hlt : count < width c) : ¬ Succeeds (decodeFrom start ((encodeChar c).take count)) := by
  simp only [width, encodeChar] at hlt ⊢
  generalize c.toNat = n at hlt ⊢
  split
  next h =>
    rw [if_pos h] at hlt
    simp only [List.length_singleton] at hlt
    omega
  next h =>
    rw [if_neg h] at hlt
    split
    next h2 =>
      rw [if_pos h2] at hlt
      simp only [List.length_cons, List.length_nil] at hlt
      obtain rfl : count = 1 := by omega
      exact not_succeeds_decodeFrom_one (by omega)
    next h2 =>
      rw [if_neg h2] at hlt
      split
      next h3 =>
        rw [if_pos h3] at hlt
        simp only [List.length_cons, List.length_nil] at hlt
        obtain rfl | rfl : count = 1 ∨ count = 2 := by omega
        · exact not_succeeds_decodeFrom_one (by omega)
        · exact not_succeeds_decodeFrom_two (by omega)
      next h3 =>
        rw [if_neg h3] at hlt
        simp only [List.length_cons, List.length_nil] at hlt
        obtain rfl | rfl | rfl : count = 1 ∨ count = 2 ∨ count = 3 := by omega
        · exact not_succeeds_decodeFrom_one (by omega)
        · exact not_succeeds_decodeFrom_two (by omega)
        · exact not_succeeds_decodeFrom_three (by omega)

/-- The first bytes of a text can be decoded exactly if they are those of whole characters. -/
theorem succeeds_decode_take (cs : List Char) (count : Nat) :
    Succeeds (decode ((encode cs).take count)) ↔ Cuts cs count := by
  constructor
  · have run (start : Nat) : Succeeds (decodeFrom start ((encode cs).take count)) →
        Cuts cs count := by
      induction cs generalizing start count with
      | nil => exact fun _ => ⟨[], List.prefix_rfl, by simp⟩
      | cons c cs ih =>
        intro h
        rcases Nat.eq_zero_or_pos count with rfl | hpos
        · exact ⟨[], List.nil_prefix, by simp⟩
        rcases Nat.lt_or_ge count (width c) with hlt | hge
        · rw [encode_cons, List.take_append_of_le_length (Nat.le_of_lt hlt)] at h
          exact absurd h (not_succeeds_decodeFrom_take hpos hlt)
        · have htake : (encode (c :: cs)).take count =
              encodeChar c ++ (encode cs).take (count - width c) := by
            rw [encode_cons, List.take_append, List.take_of_length_le hge, width]
          rw [htake, decodeFrom_encodeChar] at h
          obtain ⟨read, hread, he⟩ := ih (count - width c) (start + width c) (by
            obtain ⟨out, hout⟩ := h
            cases hrest : decodeFrom (start + width c) ((encode cs).take (count - width c)) with
            | error fault =>
              rw [hrest] at hout
              cases hout
            | ok rest => exact ⟨rest, rfl⟩)
          exact ⟨c :: read, (List.cons_prefix_cons).mpr ⟨rfl, hread⟩, by
            rw [htake, he, encode_cons]⟩
    exact run 0
  · rintro ⟨read, -, he⟩
    exact ⟨read, by rw [he, decode_encode]⟩

instance decidableCuts (cs : List Char) (count : Nat) : Decidable (Cuts cs count) :=
  decidable_of_iff _ (succeeds_decode_take cs count)

end Utf8

end DocSuite.Text
