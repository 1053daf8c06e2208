/-!
Results: values or faults. Main statement: results in a list are values exactly if each of them is.
-/
namespace DocSuite

/-- A result is a value. -/
def Succeeds {ε α : Type} (result : Except ε α) : Prop := ∃ a, result = .ok a

section

variable {ε α β : Type}

instance decidableEqOk [DecidableEq α] (result : Except ε α) (a : α) :
    Decidable (result = .ok a) :=
  match result with
  | .ok b => decidable_of_iff (b = a) ⟨fun h => h ▸ rfl, fun h => Except.ok.inj h⟩
  | .error _ => isFalse fun h => by cases h

instance decidableSucceeds (result : Except ε α) : Decidable (Succeeds result) :=
  match result with
  | .ok a => isTrue ⟨a, rfl⟩
  | .error _ => isFalse fun ⟨_, h⟩ => by cases h

theorem exists_of_toOption_map {g : α → β} {result : Except ε α} {b : β}
    (h : result.toOption.map g = some b) : ∃ a, result = .ok a ∧ g a = b := by
  cases result with
  | error fault => cases h
  | ok a => exact ⟨a, rfl, Option.some.inj h⟩

@[simp] theorem exists_eq_ok {result : Except ε α} : (∃ a, result = .ok a) ↔ Succeeds result := .rfl

@[simp] theorem succeeds_ok (a : α) : Succeeds (.ok a : Except ε α) ↔ True :=
  iff_true_intro ⟨a, rfl⟩

@[simp] theorem succeeds_pure (a : α) : Succeeds (pure a : Except ε α) ↔ True := succeeds_ok a

@[simp] theorem succeeds_error (fault : ε) : Succeeds (.error fault : Except ε α) ↔ False :=
  iff_false_intro fun ⟨_, h⟩ => by cases h

@[simp] theorem succeeds_throw (fault : ε) : Succeeds (throw fault : Except ε α) ↔ False :=
  succeeds_error fault

@[simp] theorem succeeds_map (f : α → β) (result : Except ε α) :
    Succeeds (f <$> result) ↔ Succeeds result := by
  cases result with
  | error fault => exact (succeeds_error fault).trans (succeeds_error fault).symm
  | ok a => exact (succeeds_ok (f a)).trans (succeeds_ok a).symm

@[simp] theorem succeeds_bind (result : Except ε α) (next : α → Except ε β) :
    Succeeds (result >>= next) ↔ ∃ a, result = .ok a ∧ Succeeds (next a) := by
  cases result with
  | error fault =>
    refine (succeeds_error fault).trans (iff_of_false id ?_)
    rintro ⟨a, h, -⟩
    cases h
  | ok a =>
    constructor
    · exact fun h => ⟨a, rfl, h⟩
    · rintro ⟨b, h, hb⟩
      cases h
      exact hb

theorem exists_of_map_eq_ok {f : α → β} {result : Except ε α} {b : β}
    (h : f <$> result = .ok b) : ∃ a, result = .ok a ∧ b = f a := by
  cases result with
  | error fault => cases h
  | ok a => exact ⟨a, rfl, (Except.ok.inj h).symm⟩

theorem map_eq_error_iff {f : α → β} {result : Except ε α} {fault : ε} :
    f <$> result = .error fault ↔ result = .error fault := by
  cases result with
  | error other =>
    constructor
    · rintro ⟨⟩
      rfl
    · rintro ⟨⟩
      rfl
  | ok a =>
    refine iff_of_false ?_ ?_
    · rintro ⟨⟩
    · rintro ⟨⟩

theorem exists_ok_and {result : Except ε α} {p : α → Prop} :
    (∃ a, result = .ok a ∧ p a) ↔ Succeeds result ∧ ∀ a, result = .ok a → p a := by
  constructor
  · rintro ⟨a, h, ha⟩
    refine ⟨⟨a, h⟩, fun b hb => ?_⟩
    rw [h, Except.ok.injEq] at hb
    exact hb ▸ ha
  · rintro ⟨⟨a, h⟩, hall⟩
    exact ⟨a, h, hall a h⟩

end


/-! ### Lists of results -/

section

variable {ε α β : Type} {f : α → Except ε β}

theorem mapM_eq_ok_iff {as : List α} {bs : List β} :
    as.mapM f = .ok bs ↔ as.map f = bs.map .ok := by
  induction as generalizing bs with
  | nil => cases bs <;> simp [pure, Except.pure]
  | cons a as ih =>
    rw [List.mapM_cons, List.map_cons]
    cases ha : f a with
    | error fault => cases bs <;> simp [bind, Except.bind]
    | ok b =>
      cases hr : as.mapM f with
      | error fault =>
        have hno (rest : List β) : as.map f ≠ rest.map .ok := fun h => by
          rw [← ih, hr] at h
          cases h
        cases bs <;> simp [bind, Except.bind, hno]
      | ok rest =>
        have := ih.mp hr
        cases bs with
        | nil => simp [bind, Except.bind, pure, Except.pure]
        | cons b' bs =>
          simp only [bind, Except.bind, pure, Except.pure, Except.ok.injEq, List.cons.injEq,
            List.map_cons, this]
          rw [List.map_inj_right fun _ _ h => Except.ok.inj h]

theorem mem_of_mapM_eq_ok {as : List α} {bs : List β} (h : as.mapM f = .ok bs) {b : β} :
    b ∈ bs ↔ ∃ a ∈ as, f a = .ok b := by
  have hb : b ∈ bs ↔ Except.ok b ∈ bs.map (Except.ok (ε := ε)) := by simp
  rw [hb, ← mapM_eq_ok_iff.mp h, List.mem_map]

theorem exists_of_mapM_eq_ok {as : List α} {bs : List β} (h : as.mapM f = .ok bs) {a : α}
    (ha : a ∈ as) : ∃ b ∈ bs, f a = .ok b := by
  have hm : f a ∈ as.map f := List.mem_map_of_mem ha
  rw [mapM_eq_ok_iff.mp h, List.mem_map] at hm
  obtain ⟨b, hb, he⟩ := hm
  exact ⟨b, hb, he.symm⟩

theorem pairwise_of_mapM_eq_ok {as : List α} {bs : List β} (h : as.mapM f = .ok bs)
    {R : α → α → Prop} {S : β → β → Prop} (has : as.Pairwise R)
    (himp : ∀ a a' b b', f a = .ok b → f a' = .ok b' → R a a' → S b b') : bs.Pairwise S := by
  have hmap : (as.map f).Pairwise fun x y => ∀ b b', x = .ok b → y = .ok b' → S b b' :=
    List.pairwise_map.mpr (has.imp fun hr b b' hb hb' => himp _ _ b b' hb hb' hr)
  rw [mapM_eq_ok_iff.mp h, List.pairwise_map] at hmap
  exact hmap.imp fun hs => hs _ _ rfl rfl

@[simp] theorem succeeds_mapM {as : List α} :
    Succeeds (as.mapM f) ↔ ∀ a ∈ as, Succeeds (f a) := by
  constructor
  · rintro ⟨bs, h⟩ a ha
    obtain ⟨b, -, hb⟩ := exists_of_mapM_eq_ok h ha
    exact ⟨b, hb⟩
  · intro h
    induction as with
    | nil => exact ⟨[], rfl⟩
    | cons a as ih =>
      rw [List.forall_mem_cons] at h
      simp [List.mapM_cons, h.1, ih h.2]

end

end DocSuite
