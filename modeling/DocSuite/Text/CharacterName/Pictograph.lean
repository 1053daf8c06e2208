/-!
The names of musical and mathematical characters, of pictographs and of selectors.
-/
namespace DocSuite.Text

def pictographNames : String :=
  "1D000 BYZANTINE MUSICAL SYMBOL *:PSILI;DASEIA;PERISPOMENI;OXEIA EKFONITIKON;OXEIA DIPLI;
    VAREIA EKFONITIKON;VAREIA DIPLI;KATHISTI;SYRMATIKI;PARAKLITIKI;YPOKRISIS;YPOKRISIS DIPLI;
    KREMASTI;APESO EKFONITIKON;EXO EKFONITIKON;TELEIA;KENTIMATA;APOSTROFOS;APOSTROFOS DIPLI;
    SYNEVMA;THITA;OLIGON ARCHAION;GORGON ARCHAION;PSILON;CHAMILON;VATHY;ISON ARCHAION;
    KENTIMA ARCHAION;KENTIMATA ARCHAION;SAXIMATA;PARICHON;STAVROS APODEXIA;OXEIAI ARCHAION;
    VAREIAI ARCHAION;APODERMA ARCHAION;APOTHEMA;KLASMA;REVMA;PIASMA ARCHAION;TINAGMA;ANATRICHISMA;
    SEISMA;SYNAGMA ARCHAION;SYNAGMA META STAVROU;OYRANISMA ARCHAION;THEMA;LEMOI;DYO;TRIA;TESSERA;
    KRATIMATA;APESO EXO NEO;FTHORA ARCHAION;IMIFTHORA;TROMIKON ARCHAION;KATAVA TROMIKON;PELASTON;
    PSIFISTON;KONTEVMA;CHOREVMA ARCHAION;RAPISMA;PARAKALESMA ARCHAION;PARAKLITIKI ARCHAION;ICHADIN;
    NANA;PETASMA;KONTEVMA ALLO;TROMIKON ALLO;STRAGGISMATA;GRONTHISMATA;ISON NEO;OLIGON NEO;
    OXEIA NEO;PETASTI;KOUFISMA;PETASTOKOUFISMA;KRATIMOKOUFISMA;PELASTON NEO;KENTIMATA NEO ANO;
    KENTIMA NEO ANO;YPSILI;APOSTROFOS NEO;APOSTROFOI SYNDESMOS NEO;YPORROI;KRATIMOYPORROON;ELAFRON;
    CHAMILI;MIKRON ISON;VAREIA NEO;PIASMA NEO;PSIFISTON NEO;OMALON;ANTIKENOMA;LYGISMA;
    PARAKLITIKI NEO;PARAKALESMA NEO;ETERON PARAKALESMA;KYLISMA;ANTIKENOKYLISMA;TROMIKON NEO;
    EKSTREPTON;SYNAGMA NEO;SYRMA;CHOREVMA NEO;EPEGERMA;SEISMA NEO;XIRON KLASMA;TROMIKOPSIFISTON;
    PSIFISTOLYGISMA;TROMIKOLYGISMA;TROMIKOPARAKALESMA;PSIFISTOPARAKALESMA;TROMIKOSYNAGMA;
    PSIFISTOSYNAGMA;GORGOSYNTHETON;ARGOSYNTHETON;ETERON ARGOSYNTHETON;OYRANISMA NEO;
    THEMATISMOS ESO;THEMATISMOS EXO;THEMA APLOUN;THES KAI APOTHES;KATAVASMA;ENDOFONON;YFEN KATO;
    YFEN ANO;STAVROS;KLASMA ANO;DIPLI ARCHAION;KRATIMA ARCHAION;KRATIMA ALLO;KRATIMA NEO;
    APODERMA NEO;APLI;DIPLI;TRIPLI;TETRAPLI;KORONIS;LEIMMA ENOS CHRONOU;LEIMMA DYO CHRONON;
    LEIMMA TRION CHRONON;LEIMMA TESSARON CHRONON;LEIMMA IMISEOS CHRONOU;GORGON NEO ANO;
    GORGON PARESTIGMENON ARISTERA;GORGON PARESTIGMENON DEXIA;DIGORGON;
    DIGORGON PARESTIGMENON ARISTERA KATO;DIGORGON PARESTIGMENON ARISTERA ANO;
    DIGORGON PARESTIGMENON DEXIA;TRIGORGON;ARGON;IMIDIARGON;DIARGON/
    1D09A BYZANTINE MUSICAL SYMBOL AGOGI *:POLI ARGI;ARGOTERI;ARGI;METRIA;MESI;GORGI;GORGOTERI;
    POLI GORGI/1D0A2 BYZANTINE MUSICAL SYMBOL MARTYRIA *:PROTOS ICHOS;ALLI PROTOS ICHOS;
    DEYTEROS ICHOS;ALLI DEYTEROS ICHOS;TRITOS ICHOS;TRIFONIAS;TETARTOS ICHOS;
    TETARTOS LEGETOS ICHOS;LEGETOS ICHOS;PLAGIOS ICHOS/1D0AC BYZANTINE MUSICAL SYMBOL *:
    ISAKIA TELOUS ICHIMATOS;APOSTROFOI TELOUS ICHIMATOS;FANEROSIS TETRAFONIAS;FANEROSIS MONOFONIAS;
    FANEROSIS DIFONIAS;MARTYRIA VARYS ICHOS;MARTYRIA PROTOVARYS ICHOS;
    MARTYRIA PLAGIOS TETARTOS ICHOS;GORTHMIKON N APLOUN;GORTHMIKON N DIPLOUN;
    ENARXIS KAI FTHORA VOU;IMIFONON;IMIFTHORON/1D0B9 BYZANTINE MUSICAL SYMBOL FTHORA *:
    ARCHAION DEYTEROU ICHOU;DIATONIKI PA;DIATONIKI NANA;NAOS ICHOS;DIATONIKI DI;
    SKLIRON DIATONON DI;DIATONIKI KE;DIATONIKI ZO;DIATONIKI NI KATO;DIATONIKI NI ANO;
    MALAKON CHROMA DIFONIAS;MALAKON CHROMA MONOFONIAS/1D0C5 BYZANTINE MUSICAL SYMBOL *:
    FHTORA SKLIRON CHROMA VASIS;FTHORA SKLIRON CHROMA SYNAFI;FTHORA NENANO;CHROA ZYGOS;
    CHROA KLITON;CHROA SPATHI;FTHORA I YFESIS TETARTIMORION;FTHORA ENARMONIOS ANTIFONIA;
    YFESIS TRITIMORION;DIESIS TRITIMORION;DIESIS TETARTIMORION;DIESIS APLI DYO DODEKATA;
    DIESIS MONOGRAMMOS TESSERA DODEKATA;DIESIS DIGRAMMOS EX DODEKATA;
    DIESIS TRIGRAMMOS OKTO DODEKATA;YFESIS APLI DYO DODEKATA;YFESIS MONOGRAMMOS TESSERA DODEKATA;
    YFESIS DIGRAMMOS EX DODEKATA;YFESIS TRIGRAMMOS OKTO DODEKATA;GENIKI DIESIS;GENIKI YFESIS;
    DIASTOLI APLI MIKRI;DIASTOLI APLI MEGALI;DIASTOLI DIPLI;DIASTOLI THESEOS;SIMANSIS THESEOS;
    SIMANSIS THESEOS DISIMOU;SIMANSIS THESEOS TRISIMOU;SIMANSIS THESEOS TETRASIMOU;SIMANSIS ARSEOS;
    SIMANSIS ARSEOS DISIMOU;SIMANSIS ARSEOS TRISIMOU;SIMANSIS ARSEOS TETRASIMOU;DIGRAMMA GG;
    DIFTOGGOS OU;STIGMA;ARKTIKO PA;ARKTIKO VOU;ARKTIKO GA;ARKTIKO DI;ARKTIKO KE;ARKTIKO ZO;
    ARKTIKO NI;KENTIMATA NEO MESO;KENTIMA NEO MESO;KENTIMATA NEO KATO;KENTIMA NEO KATO;KLASMA KATO;
    GORGON NEO KATO/1D100 MUSICAL SYMBOL * BARLINE:SINGLE;DOUBLE;FINAL;REVERSE FINAL;DASHED;SHORT/
    1D106 MUSICAL SYMBOL *:LEFT REPEAT SIGN;RIGHT REPEAT SIGN;REPEAT DOTS;DAL SEGNO;DA CAPO;SEGNO;
    CODA;REPEATED FIGURE-1;REPEATED FIGURE-2;REPEATED FIGURE-3;FERMATA;FERMATA BELOW;BREATH MARK;
    CAESURA;BRACE;BRACKET/1D116 MUSICAL SYMBOL *-LINE STAFF:ONE;TWO;THREE;FOUR;FIVE;SIX/
    1D11C MUSICAL SYMBOL *:SIX-STRING FRETBOARD;FOUR-STRING FRETBOARD;G CLEF;G CLEF OTTAVA ALTA;
    G CLEF OTTAVA BASSA;C CLEF;F CLEF;F CLEF OTTAVA ALTA;F CLEF OTTAVA BASSA;DRUM CLEF-1;
    DRUM CLEF-2/1D129 MUSICAL SYMBOL *:MULTIPLE MEASURE REST;DOUBLE SHARP;DOUBLE FLAT;FLAT UP;
    FLAT DOWN;NATURAL UP;NATURAL DOWN;SHARP UP;SHARP DOWN;QUARTER TONE SHARP;QUARTER TONE FLAT;
    COMMON TIME;CUT TIME;OTTAVA ALTA;OTTAVA BASSA;QUINDICESIMA ALTA;QUINDICESIMA BASSA;MULTI REST;
    WHOLE REST;HALF REST;QUARTER REST;EIGHTH REST;SIXTEENTH REST;THIRTY-SECOND REST;
    SIXTY-FOURTH REST;ONE HUNDRED TWENTY-EIGHTH REST;X NOTEHEAD;PLUS NOTEHEAD;CIRCLE X NOTEHEAD/
    1D146 MUSICAL SYMBOL * WHITE|MUSICAL SYMBOL * BLACK:SQUARE NOTEHEAD;TRIANGLE NOTEHEAD UP;
    TRIANGLE NOTEHEAD LEFT;TRIANGLE NOTEHEAD RIGHT;TRIANGLE NOTEHEAD DOWN;
    TRIANGLE NOTEHEAD UP RIGHT;MOON NOTEHEAD;TRIANGLE-ROUND NOTEHEAD DOWN/1D156 MUSICAL SYMBOL *:
    PARENTHESIS NOTEHEAD;VOID NOTEHEAD;NOTEHEAD BLACK;NULL NOTEHEAD;CLUSTER NOTEHEAD WHITE;
    CLUSTER NOTEHEAD BLACK;BREVE/1D15D MUSICAL SYMBOL * NOTE:WHOLE;HALF;QUARTER;EIGHTH;SIXTEENTH;
    THIRTY-SECOND;SIXTY-FOURTH;ONE HUNDRED TWENTY-EIGHTH/1D165 MUSICAL SYMBOL COMBINING *:STEM;
    SPRECHGESANG STEM;TREMOLO-1;TREMOLO-2;TREMOLO-3/1D16A MUSICAL SYMBOL FINGERED TREMOLO-*:1;2;3/
    1D16D MUSICAL SYMBOL COMBINING *:AUGMENTATION DOT;FLAG-1;FLAG-2;FLAG-3;FLAG-4;FLAG-5/
    1D173 MUSICAL SYMBOL BEGIN *|MUSICAL SYMBOL END *:BEAM;TIE;SLUR;PHRASE/
    1D17B MUSICAL SYMBOL COMBINING *:ACCENT;STACCATO;TENUTO;STACCATISSIMO;MARCATO;MARCATO-STACCATO;
    ACCENT-STACCATO;LOURE/1D183 MUSICAL SYMBOL ARPEGGIATO *:UP;DOWN/
    1D185 MUSICAL SYMBOL COMBINING *:DOIT;RIP;FLIP;SMEAR;BEND;DOUBLE TONGUE;TRIPLE TONGUE/
    1D18C MUSICAL SYMBOL *:RINFORZANDO;SUBITO;Z;PIANO;MEZZO;FORTE;CRESCENDO;DECRESCENDO;
    GRACE NOTE SLASH;GRACE NOTE NO SLASH;TR;TURN;INVERTED TURN;TURN SLASH;TURN UP/
    1D19B MUSICAL SYMBOL ORNAMENT STROKE-*:1;2;3;4;5;6;7;8;9;10;11/1D1A6 MUSICAL SYMBOL *:
    HAUPTSTIMME;NEBENSTIMME;END OF STIMME;DEGREE SLASH;COMBINING DOWN BOW;COMBINING UP BOW;
    COMBINING HARMONIC;COMBINING SNAP PIZZICATO;PEDAL MARK;PEDAL UP MARK;HALF PEDAL MARK;
    GLISSANDO UP;GLISSANDO DOWN;WITH FINGERNAILS;DAMP;DAMP ALL;MAXIMA;LONGA;BREVIS;
    SEMIBREVIS WHITE;SEMIBREVIS BLACK;MINIMA;MINIMA BLACK;SEMIMINIMA WHITE;SEMIMINIMA BLACK;
    FUSA WHITE;FUSA BLACK;LONGA PERFECTA REST;LONGA IMPERFECTA REST;BREVIS REST;SEMIBREVIS REST;
    MINIMA REST;SEMIMINIMA REST/1D1C7 MUSICAL SYMBOL TEMPUS PERFECTUM CUM PROLATIONE *:PERFECTA;
    IMPERFECTA;PERFECTA DIMINUTION-1/1D1CA MUSICAL SYMBOL TEMPUS IMPERFECTUM CUM PROLATIONE *:
    PERFECTA;IMPERFECTA;IMPERFECTA DIMINUTION-1;IMPERFECTA DIMINUTION-2;IMPERFECTA DIMINUTION-3/
    1D1CF MUSICAL SYMBOL *:CROIX;GREGORIAN C CLEF;GREGORIAN F CLEF;SQUARE B;VIRGA;PODATUS;CLIVIS;
    SCANDICUS;CLIMACUS;TORCULUS;PORRECTUS;PORRECTUS FLEXUS;SCANDICUS FLEXUS;TORCULUS RESUPINUS;
    PES SUBPUNCTIS/1D1DE MUSICAL SYMBOL KIEVAN *:C CLEF;END OF PIECE;FINAL NOTE;RECITATIVE MARK;
    WHOLE NOTE;HALF NOTE;QUARTER NOTE STEM DOWN;QUARTER NOTE STEM UP;EIGHTH NOTE STEM DOWN;
    EIGHTH NOTE STEM UP;FLAT SIGN/1D1E9 MUSICAL SYMBOL *:SORI;KORON/
    1D200 GREEK VOCAL NOTATION SYMBOL-*:1;2;3;4;5;6;7;8;9;10;11;12;13;14;15;16;17;18;19;20;21;22;
    23;24;50;51;52;53;54/1D21D GREEK INSTRUMENTAL NOTATION SYMBOL-*:1;2;4;5;7;8;11;12;13;14;17;18;
    19;23;24;25;26;27;29;30;32;36;37;38;39;40;42;43;45;47;48;49;50;51;52;53;54/
    1D242 COMBINING GREEK MUSICAL *:TRISEME;TETRASEME;PENTASEME/1D245:GREEK MUSICAL LEIMMA/
    1D2E0 MAYAN NUMERAL *:ZERO;ONE;TWO;THREE;FOUR;FIVE;SIX;SEVEN;EIGHT;NINE;TEN;ELEVEN;TWELVE;
    THIRTEEN;FOURTEEN;FIFTEEN;SIXTEEN;SEVENTEEN;EIGHTEEN;NINETEEN/1D300:MONOGRAM FOR EARTH/
    1D301 DIGRAM FOR *:HEAVENLY EARTH;HUMAN EARTH;EARTHLY HEAVEN;EARTHLY HUMAN;EARTH/
    1D306 TETRAGRAM FOR *:CENTRE;FULL CIRCLE;MIRED;BARRIER;KEEPING SMALL;CONTRARIETY;ASCENT;
    OPPOSITION;BRANCHING OUT;DEFECTIVENESS OR DISTORTION;DIVERGENCE;YOUTHFULNESS;INCREASE;
    PENETRATION;REACH;CONTACT;HOLDING BACK;WAITING;FOLLOWING;ADVANCE;RELEASE;RESISTANCE;EASE;JOY;
    CONTENTION;ENDEAVOUR;DUTIES;CHANGE;DECISIVENESS;BOLD RESOLUTION;PACKING;LEGION;CLOSENESS;
    KINSHIP;GATHERING;STRENGTH;PURITY;FULLNESS;RESIDENCE;LAW OR MODEL;RESPONSE;GOING TO MEET;
    ENCOUNTERS;STOVE;GREATNESS;ENLARGEMENT;PATTERN;RITUAL;FLIGHT;VASTNESS OR WASTING;CONSTANCY;
    MEASURE;ETERNITY;UNITY;DIMINISHMENT;CLOSED MOUTH;GUARDEDNESS;GATHERING IN;MASSING;ACCUMULATION;
    EMBELLISHMENT;DOUBT;WATCH;SINKING;INNER;DEPARTURE;DARKENING;DIMMING;EXHAUSTION;SEVERANCE;
    STOPPAGE;HARDNESS;COMPLETION;CLOSURE;FAILURE;AGGRAVATION;COMPLIANCE;ON THE VERGE;DIFFICULTIES;
    LABOURING;FOSTERING/1D360 COUNTING ROD UNIT DIGIT *:ONE;TWO;THREE;FOUR;FIVE;SIX;SEVEN;EIGHT;
    NINE/1D369 COUNTING ROD TENS DIGIT *:ONE;TWO;THREE;FOUR;FIVE;SIX;SEVEN;EIGHT;NINE/
    1D372 IDEOGRAPHIC TALLY MARK *:ONE;TWO;THREE;FOUR;FIVE/1D377 TALLY MARK *:ONE;FIVE/
    1D400 MATHEMATICAL BOLD CAPITAL *:A;B;C;D;E;F;G;H;I;J;K;L;M;N;O;P;Q;R;S;T;U;V;W;X;Y;Z/
    1D41A MATHEMATICAL BOLD SMALL *:A;B;C;D;E;F;G;H;I;J;K;L;M;N;O;P;Q;R;S;T;U;V;W;X;Y;Z/
    1D434 MATHEMATICAL ITALIC CAPITAL *:A;B;C;D;E;F;G;H;I;J;K;L;M;N;O;P;Q;R;S;T;U;V;W;X;Y;Z/
    1D44E MATHEMATICAL ITALIC SMALL *:A;B;C;D;E;F;G/1D456 MATHEMATICAL ITALIC SMALL *:I;J;K;L;M;N;
    O;P;Q;R;S;T;U;V;W;X;Y;Z/1D468 MATHEMATICAL BOLD ITALIC CAPITAL *:A;B;C;D;E;F;G;H;I;J;K;L;M;N;O;
    P;Q;R;S;T;U;V;W;X;Y;Z/1D482 MATHEMATICAL BOLD ITALIC SMALL *:A;B;C;D;E;F;G;H;I;J;K;L;M;N;O;P;Q;
    R;S;T;U;V;W;X;Y;Z/1D49C:MATHEMATICAL SCRIPT CAPITAL A/1D49E MATHEMATICAL SCRIPT CAPITAL *:C;D/
    1D4A2:MATHEMATICAL SCRIPT CAPITAL G/1D4A5 MATHEMATICAL SCRIPT CAPITAL *:J;K/
    1D4A9 MATHEMATICAL SCRIPT CAPITAL *:N;O;P;Q/1D4AE MATHEMATICAL SCRIPT CAPITAL *:S;T;U;V;W;X;Y;
    Z/1D4B6 MATHEMATICAL SCRIPT SMALL *:A;B;C;D/1D4BB:MATHEMATICAL SCRIPT SMALL F/
    1D4BD MATHEMATICAL SCRIPT SMALL *:H;I;J;K;L;M;N/1D4C5 MATHEMATICAL SCRIPT SMALL *:P;Q;R;S;T;U;
    V;W;X;Y;Z/1D4D0 MATHEMATICAL BOLD SCRIPT CAPITAL *:A;B;C;D;E;F;G;H;I;J;K;L;M;N;O;P;Q;R;S;T;U;V;
    W;X;Y;Z/1D4EA MATHEMATICAL BOLD SCRIPT SMALL *:A;B;C;D;E;F;G;H;I;J;K;L;M;N;O;P;Q;R;S;T;U;V;W;X;
    Y;Z/1D504 MATHEMATICAL FRAKTUR CAPITAL *:A;B/1D507 MATHEMATICAL FRAKTUR CAPITAL *:D;E;F;G/
    1D50D MATHEMATICAL FRAKTUR CAPITAL *:J;K;L;M;N;O;P;Q/1D516 MATHEMATICAL FRAKTUR CAPITAL *:S;T;
    U;V;W;X;Y/1D51E MATHEMATICAL FRAKTUR SMALL *:A;B;C;D;E;F;G;H;I;J;K;L;M;N;O;P;Q;R;S;T;U;V;W;X;Y;
    Z/1D538 MATHEMATICAL DOUBLE-STRUCK CAPITAL *:A;B/1D53B MATHEMATICAL DOUBLE-STRUCK CAPITAL *:D;
    E;F;G/1D540 MATHEMATICAL DOUBLE-STRUCK CAPITAL *:I;J;K;L;M/
    1D546:MATHEMATICAL DOUBLE-STRUCK CAPITAL O/1D54A MATHEMATICAL DOUBLE-STRUCK CAPITAL *:S;T;U;V;
    W;X;Y/1D552 MATHEMATICAL DOUBLE-STRUCK SMALL *:A;B;C;D;E;F;G;H;I;J;K;L;M;N;O;P;Q;R;S;T;U;V;W;X;
    Y;Z/1D56C MATHEMATICAL BOLD FRAKTUR CAPITAL *:A;B;C;D;E;F;G;H;I;J;K;L;M;N;O;P;Q;R;S;T;U;V;W;X;
    Y;Z/1D586 MATHEMATICAL BOLD FRAKTUR SMALL *:A;B;C;D;E;F;G;H;I;J;K;L;M;N;O;P;Q;R;S;T;U;V;W;X;Y;
    Z/1D5A0 MATHEMATICAL SANS-SERIF CAPITAL *:A;B;C;D;E;F;G;H;I;J;K;L;M;N;O;P;Q;R;S;T;U;V;W;X;Y;Z/
    1D5BA MATHEMATICAL SANS-SERIF SMALL *:A;B;C;D;E;F;G;H;I;J;K;L;M;N;O;P;Q;R;S;T;U;V;W;X;Y;Z/
    1D5D4 MATHEMATICAL SANS-SERIF BOLD CAPITAL *:A;B;C;D;E;F;G;H;I;J;K;L;M;N;O;P;Q;R;S;T;U;V;W;X;Y;
    Z/1D5EE MATHEMATICAL SANS-SERIF BOLD SMALL *:A;B;C;D;E;F;G;H;I;J;K;L;M;N;O;P;Q;R;S;T;U;V;W;X;Y;
    Z/1D608 MATHEMATICAL SANS-SERIF ITALIC CAPITAL *:A;B;C;D;E;F;G;H;I;J;K;L;M;N;O;P;Q;R;S;T;U;V;W;
    X;Y;Z/1D622 MATHEMATICAL SANS-SERIF ITALIC SMALL *:A;B;C;D;E;F;G;H;I;J;K;L;M;N;O;P;Q;R;S;T;U;V;
    W;X;Y;Z/1D63C MATHEMATICAL SANS-SERIF BOLD ITALIC CAPITAL *:A;B;C;D;E;F;G;H;I;J;K;L;M;N;O;P;Q;
    R;S;T;U;V;W;X;Y;Z/1D656 MATHEMATICAL SANS-SERIF BOLD ITALIC SMALL *:A;B;C;D;E;F;G;H;I;J;K;L;M;
    N;O;P;Q;R;S;T;U;V;W;X;Y;Z/1D670 MATHEMATICAL MONOSPACE CAPITAL *:A;B;C;D;E;F;G;H;I;J;K;L;M;N;O;
    P;Q;R;S;T;U;V;W;X;Y;Z/1D68A MATHEMATICAL MONOSPACE SMALL *:A;B;C;D;E;F;G;H;I;J;K;L;M;N;O;P;Q;R;
    S;T;U;V;W;X;Y;Z/1D6A4 MATHEMATICAL ITALIC SMALL DOTLESS *:I;J/
    1D6A8 MATHEMATICAL BOLD CAPITAL *:ALPHA;BETA;GAMMA;DELTA;EPSILON;ZETA;ETA;THETA;IOTA;KAPPA;
    LAMDA;MU;NU;XI;OMICRON;PI;RHO;THETA SYMBOL;SIGMA;TAU;UPSILON;PHI;CHI;PSI;OMEGA/
    1D6C1:MATHEMATICAL BOLD NABLA/1D6C2 MATHEMATICAL BOLD SMALL *:ALPHA;BETA;GAMMA;DELTA;EPSILON;
    ZETA;ETA;THETA;IOTA;KAPPA;LAMDA;MU;NU;XI;OMICRON;PI;RHO;FINAL SIGMA;SIGMA;TAU;UPSILON;PHI;CHI;
    PSI;OMEGA/1D6DB:MATHEMATICAL BOLD PARTIAL DIFFERENTIAL/1D6DC MATHEMATICAL BOLD * SYMBOL:
    EPSILON;THETA;KAPPA;PHI;RHO;PI/1D6E2 MATHEMATICAL ITALIC CAPITAL *:ALPHA;BETA;GAMMA;DELTA;
    EPSILON;ZETA;ETA;THETA;IOTA;KAPPA;LAMDA;MU;NU;XI;OMICRON;PI;RHO;THETA SYMBOL;SIGMA;TAU;UPSILON;
    PHI;CHI;PSI;OMEGA/1D6FB:MATHEMATICAL ITALIC NABLA/1D6FC MATHEMATICAL ITALIC SMALL *:ALPHA;BETA;
    GAMMA;DELTA;EPSILON;ZETA;ETA;THETA;IOTA;KAPPA;LAMDA;MU;NU;XI;OMICRON;PI;RHO;FINAL SIGMA;SIGMA;
    TAU;UPSILON;PHI;CHI;PSI;OMEGA/1D715:MATHEMATICAL ITALIC PARTIAL DIFFERENTIAL/
    1D716 MATHEMATICAL ITALIC * SYMBOL:EPSILON;THETA;KAPPA;PHI;RHO;PI/
    1D71C MATHEMATICAL BOLD ITALIC CAPITAL *:ALPHA;BETA;GAMMA;DELTA;EPSILON;ZETA;ETA;THETA;IOTA;
    KAPPA;LAMDA;MU;NU;XI;OMICRON;PI;RHO;THETA SYMBOL;SIGMA;TAU;UPSILON;PHI;CHI;PSI;OMEGA/
    1D735:MATHEMATICAL BOLD ITALIC NABLA/1D736 MATHEMATICAL BOLD ITALIC SMALL *:ALPHA;BETA;GAMMA;
    DELTA;EPSILON;ZETA;ETA;THETA;IOTA;KAPPA;LAMDA;MU;NU;XI;OMICRON;PI;RHO;FINAL SIGMA;SIGMA;TAU;
    UPSILON;PHI;CHI;PSI;OMEGA/1D74F MATHEMATICAL BOLD ITALIC *:PARTIAL DIFFERENTIAL;EPSILON SYMBOL;
    THETA SYMBOL;KAPPA SYMBOL;PHI SYMBOL;RHO SYMBOL;PI SYMBOL/
    1D756 MATHEMATICAL SANS-SERIF BOLD CAPITAL *:ALPHA;BETA;GAMMA;DELTA;EPSILON;ZETA;ETA;THETA;
    IOTA;KAPPA;LAMDA;MU;NU;XI;OMICRON;PI;RHO;THETA SYMBOL;SIGMA;TAU;UPSILON;PHI;CHI;PSI;OMEGA/
    1D76F:MATHEMATICAL SANS-SERIF BOLD NABLA/1D770 MATHEMATICAL SANS-SERIF BOLD SMALL *:ALPHA;BETA;
    GAMMA;DELTA;EPSILON;ZETA;ETA;THETA;IOTA;KAPPA;LAMDA;MU;NU;XI;OMICRON;PI;RHO;FINAL SIGMA;SIGMA;
    TAU;UPSILON;PHI;CHI;PSI;OMEGA/1D789 MATHEMATICAL SANS-SERIF BOLD *:PARTIAL DIFFERENTIAL;
    EPSILON SYMBOL;THETA SYMBOL;KAPPA SYMBOL;PHI SYMBOL;RHO SYMBOL;PI SYMBOL/
    1D790 MATHEMATICAL SANS-SERIF BOLD ITALIC CAPITAL *:ALPHA;BETA;GAMMA;DELTA;EPSILON;ZETA;ETA;
    THETA;IOTA;KAPPA;LAMDA;MU;NU;XI;OMICRON;PI;RHO;THETA SYMBOL;SIGMA;TAU;UPSILON;PHI;CHI;PSI;
    OMEGA/1D7A9:MATHEMATICAL SANS-SERIF BOLD ITALIC NABLA/
    1D7AA MATHEMATICAL SANS-SERIF BOLD ITALIC SMALL *:ALPHA;BETA;GAMMA;DELTA;EPSILON;ZETA;ETA;
    THETA;IOTA;KAPPA;LAMDA;MU;NU;XI;OMICRON;PI;RHO;FINAL SIGMA;SIGMA;TAU;UPSILON;PHI;CHI;PSI;OMEGA/
    1D7C3 MATHEMATICAL SANS-SERIF BOLD ITALIC *:PARTIAL DIFFERENTIAL;EPSILON SYMBOL;THETA SYMBOL;
    KAPPA SYMBOL;PHI SYMBOL;RHO SYMBOL;PI SYMBOL/1D7CA MATHEMATICAL BOLD * DIGAMMA:CAPITAL;SMALL/
    1D7CE MATHEMATICAL BOLD DIGIT *:ZERO;ONE;TWO;THREE;FOUR;FIVE;SIX;SEVEN;EIGHT;NINE/
    1D7D8 MATHEMATICAL DOUBLE-STRUCK DIGIT *:ZERO;ONE;TWO;THREE;FOUR;FIVE;SIX;SEVEN;EIGHT;NINE/
    1D7E2 MATHEMATICAL SANS-SERIF DIGIT *:ZERO;ONE;TWO;THREE;FOUR;FIVE;SIX;SEVEN;EIGHT;NINE/
    1D7EC MATHEMATICAL SANS-SERIF BOLD DIGIT *:ZERO;ONE;TWO;THREE;FOUR;FIVE;SIX;SEVEN;EIGHT;NINE/
    1D7F6 MATHEMATICAL MONOSPACE DIGIT *:ZERO;ONE;TWO;THREE;FOUR;FIVE;SIX;SEVEN;EIGHT;NINE/
    1D800 SIGNWRITING HAND-*:FIST INDEX;CIRCLE INDEX;CUP INDEX;OVAL INDEX;HINGE INDEX;ANGLE INDEX;
    FIST INDEX BENT;CIRCLE INDEX BENT;FIST THUMB UNDER INDEX BENT;FIST INDEX RAISED KNUCKLE;
    FIST INDEX CUPPED;FIST INDEX HINGED;FIST INDEX HINGED LOW;CIRCLE INDEX HINGE;FIST INDEX MIDDLE;
    CIRCLE INDEX MIDDLE/1D810 SIGNWRITING HAND-FIST INDEX *:MIDDLE BENT;MIDDLE RAISED KNUCKLES;
    MIDDLE HINGED;UP MIDDLE HINGED;HINGED MIDDLE UP;MIDDLE CONJOINED/
    1D816 SIGNWRITING HAND-FIST INDEX MIDDLE CONJOINED *:INDEX BENT;MIDDLE BENT;CUPPED;HINGED/
    1D81A SIGNWRITING HAND-*:FIST INDEX MIDDLE CROSSED;CIRCLE INDEX MIDDLE CROSSED;
    FIST MIDDLE BENT OVER INDEX;FIST INDEX BENT OVER MIDDLE;FIST INDEX MIDDLE THUMB;
    CIRCLE INDEX MIDDLE THUMB/1D820 SIGNWRITING HAND-FIST INDEX *:MIDDLE STRAIGHT THUMB BENT;
    MIDDLE BENT THUMB STRAIGHT;MIDDLE THUMB BENT;MIDDLE HINGED SPREAD THUMB SIDE;
    UP MIDDLE HINGED THUMB SIDE;UP MIDDLE HINGED THUMB CONJOINED;HINGED MIDDLE UP THUMB SIDE;
    MIDDLE UP SPREAD THUMB FORWARD/1D828 SIGNWRITING HAND-FIST INDEX MIDDLE THUMB *:CUPPED;CIRCLED;
    HOOKED;HINGED/1D82C SIGNWRITING HAND-FIST *:THUMB BETWEEN INDEX MIDDLE STRAIGHT;
    INDEX MIDDLE CONJOINED THUMB SIDE;INDEX MIDDLE CONJOINED THUMB SIDE CONJOINED;
    INDEX MIDDLE CONJOINED THUMB SIDE BENT;MIDDLE THUMB HOOKED INDEX UP;
    INDEX THUMB HOOKED MIDDLE UP;INDEX MIDDLE CONJOINED HINGED THUMB SIDE;
    INDEX MIDDLE CROSSED THUMB SIDE;INDEX MIDDLE CONJOINED THUMB FORWARD;
    INDEX MIDDLE CONJOINED CUPPED THUMB FORWARD;MIDDLE THUMB CUPPED INDEX UP;
    INDEX THUMB CUPPED MIDDLE UP;MIDDLE THUMB CIRCLED INDEX UP;MIDDLE THUMB CIRCLED INDEX HINGED/
    1D83A SIGNWRITING HAND-FIST INDEX THUMB * MIDDLE UP:ANGLED OUT;ANGLED IN;CIRCLED/
    1D83D SIGNWRITING HAND-FIST INDEX MIDDLE THUMB *:CONJOINED HINGED;ANGLED OUT;ANGLED/
    1D840 SIGNWRITING HAND-FIST MIDDLE THUMB ANGLED *:OUT INDEX UP;OUT INDEX CROSSED;INDEX UP/
    1D843 SIGNWRITING HAND-*:FIST INDEX THUMB HOOKED MIDDLE HINGED;FLAT FOUR FINGERS/
    1D845 SIGNWRITING HAND-FLAT FOUR FINGERS *:BENT;HINGED;CONJOINED;CONJOINED SPLIT/
    1D849 SIGNWRITING HAND-*:CLAW FOUR FINGERS CONJOINED;FIST FOUR FINGERS CONJOINED BENT;
    HINGE FOUR FINGERS CONJOINED/1D84C SIGNWRITING HAND-FLAT FIVE FINGERS *|
    SIGNWRITING HAND-FLAT HEEL FIVE FINGERS *:SPREAD;SPREAD FOUR BENT;SPREAD BENT/
    1D852 SIGNWRITING HAND-*:FLAT FIVE FINGERS SPREAD THUMB FORWARD;CUP FIVE FINGERS SPREAD;
    CUP FIVE FINGERS SPREAD OPEN;HINGE FIVE FINGERS SPREAD OPEN;OVAL FIVE FINGERS SPREAD;
    FLAT FIVE FINGERS SPREAD HINGED;FLAT FIVE FINGERS SPREAD HINGED THUMB SIDE;
    FLAT FIVE FINGERS SPREAD HINGED NO THUMB;FLAT;FLAT BETWEEN PALM FACINGS;FLAT HEEL;
    FLAT THUMB SIDE;FLAT HEEL THUMB SIDE;FLAT THUMB BENT;FLAT THUMB FORWARD;
    FLAT SPLIT INDEX THUMB SIDE;FLAT SPLIT CENTRE;FLAT SPLIT CENTRE THUMB SIDE;
    FLAT SPLIT CENTRE THUMB SIDE BENT;FLAT SPLIT LITTLE;CLAW;CLAW THUMB SIDE;CLAW NO THUMB;
    CLAW THUMB FORWARD;HOOK CURLICUE;HOOK;CUP OPEN;CUP;CUP OPEN THUMB SIDE;CUP THUMB SIDE;
    CUP OPEN NO THUMB;CUP NO THUMB;CUP OPEN THUMB FORWARD;CUP THUMB FORWARD;CURLICUE OPEN;CURLICUE;
    CIRCLE;OVAL;OVAL THUMB SIDE;OVAL NO THUMB;OVAL THUMB FORWARD;HINGE OPEN;
    HINGE OPEN THUMB FORWARD;HINGE;HINGE SMALL;HINGE OPEN THUMB SIDE;HINGE THUMB SIDE;
    HINGE OPEN NO THUMB;HINGE NO THUMB;HINGE THUMB SIDE TOUCHING INDEX;
    HINGE THUMB BETWEEN MIDDLE RING;ANGLE;FIST INDEX MIDDLE RING;CIRCLE INDEX MIDDLE RING;
    HINGE INDEX MIDDLE RING;ANGLE INDEX MIDDLE RING;HINGE LITTLE;FIST INDEX MIDDLE RING BENT/
    1D88C SIGNWRITING HAND-* INDEX MIDDLE RING CONJOINED:FIST;HINGE/
    1D88E SIGNWRITING HAND-FIST LITTLE *:DOWN;DOWN RIPPLE STRAIGHT;DOWN RIPPLE CURVED;
    DOWN OTHERS CIRCLED;UP/1D893 SIGNWRITING HAND-* LITTLE UP:FIST THUMB UNDER;CIRCLE;OVAL;ANGLE/
    1D897 SIGNWRITING HAND-FIST LITTLE *:RAISED KNUCKLE;BENT;TOUCHES THUMB/
    1D89A SIGNWRITING HAND-FIST LITTLE *|SIGNWRITING HAND-HINGE LITTLE *:THUMB;INDEX THUMB/
    1D89E SIGNWRITING HAND-ANGLE LITTLE INDEX THUMB INDEX *:THUMB OUT;THUMB/
    1D8A0 SIGNWRITING HAND-* LITTLE INDEX:FIST;CIRCLE;HINGE;ANGLE/
    1D8A4 SIGNWRITING HAND-* INDEX MIDDLE LITTLE:FIST;CIRCLE;HINGE/1D8A7 SIGNWRITING HAND-*:
    HINGE RING;ANGLE INDEX MIDDLE LITTLE;FIST INDEX MIDDLE CROSS LITTLE;
    CIRCLE INDEX MIDDLE CROSS LITTLE;FIST RING DOWN;HINGE RING DOWN INDEX THUMB HOOK MIDDLE;
    ANGLE RING DOWN MIDDLE THUMB INDEX CROSS;FIST RING UP;FIST RING RAISED KNUCKLE;
    FIST RING LITTLE;CIRCLE RING LITTLE;OVAL RING LITTLE;ANGLE RING LITTLE;FIST RING MIDDLE;
    FIST RING MIDDLE CONJOINED;FIST RING MIDDLE RAISED KNUCKLES;FIST RING INDEX;FIST RING THUMB;
    HOOK RING THUMB;FIST INDEX RING LITTLE;CIRCLE INDEX RING LITTLE;CURLICUE INDEX RING LITTLE ON;
    HOOK INDEX RING LITTLE OUT;HOOK INDEX RING LITTLE IN;HOOK INDEX RING LITTLE UNDER;
    CUP INDEX RING LITTLE;HINGE INDEX RING LITTLE;ANGLE INDEX RING LITTLE OUT;
    ANGLE INDEX RING LITTLE;FIST MIDDLE DOWN;HINGE MIDDLE;FIST MIDDLE UP;CIRCLE MIDDLE UP;
    FIST MIDDLE RAISED KNUCKLE;FIST MIDDLE UP THUMB SIDE;HOOK MIDDLE THUMB;
    FIST MIDDLE THUMB LITTLE;FIST MIDDLE LITTLE;FIST MIDDLE RING LITTLE;CIRCLE MIDDLE RING LITTLE;
    CURLICUE MIDDLE RING LITTLE ON;CUP MIDDLE RING LITTLE;HINGE MIDDLE RING LITTLE;
    ANGLE MIDDLE RING LITTLE OUT;ANGLE MIDDLE RING LITTLE IN;ANGLE MIDDLE RING LITTLE;
    CIRCLE MIDDLE RING LITTLE BENT;CLAW MIDDLE RING LITTLE CONJOINED;
    CLAW MIDDLE RING LITTLE CONJOINED SIDE;HOOK MIDDLE RING LITTLE CONJOINED OUT;
    HOOK MIDDLE RING LITTLE CONJOINED IN;HOOK MIDDLE RING LITTLE CONJOINED;HINGE INDEX HINGED;
    FIST INDEX THUMB SIDE;HINGE INDEX THUMB SIDE/1D8DE SIGNWRITING HAND-FIST INDEX THUMB *:
    SIDE THUMB DIAGONAL;SIDE THUMB CONJOINED;SIDE THUMB BENT;SIDE INDEX BENT;SIDE BOTH BENT;
    SIDE INDEX HINGE;FORWARD INDEX STRAIGHT;FORWARD INDEX BENT;HOOK;CURLICUE;CURVE THUMB INSIDE/
    1D8E9 SIGNWRITING HAND-*:CLAW INDEX THUMB CURVE THUMB INSIDE;
    FIST INDEX THUMB CURVE THUMB UNDER;FIST INDEX THUMB CIRCLE;CUP INDEX THUMB;
    CUP INDEX THUMB OPEN;HINGE INDEX THUMB OPEN;HINGE INDEX THUMB LARGE;HINGE INDEX THUMB;
    HINGE INDEX THUMB SMALL;ANGLE INDEX THUMB OUT;ANGLE INDEX THUMB IN;ANGLE INDEX THUMB;
    FIST THUMB/1D8F6 SIGNWRITING HAND-FIST THUMB *:HEEL;SIDE DIAGONAL;SIDE CONJOINED;SIDE BENT;
    FORWARD;BETWEEN INDEX MIDDLE;BETWEEN MIDDLE RING;BETWEEN RING LITTLE;UNDER TWO FINGERS;
    OVER TWO FINGERS;UNDER THREE FINGERS;UNDER FOUR FINGERS;OVER FOUR RAISED KNUCKLES/
    1D903 SIGNWRITING HAND-*:FIST;FIST HEEL/1D905 SIGNWRITING * SINGLE|SIGNWRITING * MULTIPLE|
    SIGNWRITING * BETWEEN:TOUCH;GRASP;STRIKE;BRUSH;RUB/1D914 SIGNWRITING SURFACE *:SYMBOLS;BETWEEN/
    1D916 SIGNWRITING SQUEEZE *:LARGE SINGLE;SMALL SINGLE;LARGE MULTIPLE;SMALL MULTIPLE;SEQUENTIAL/
    1D91B SIGNWRITING FLICK LARGE *|SIGNWRITING FLICK SMALL *:SINGLE;MULTIPLE/1D91F SIGNWRITING *:
    FLICK SEQUENTIAL;SQUEEZE FLICK ALTERNATING/1D921 SIGNWRITING MOVEMENT-HINGE *:UP DOWN LARGE;
    UP DOWN SMALL;UP SEQUENTIAL;DOWN SEQUENTIAL;UP DOWN ALTERNATING LARGE;
    UP DOWN ALTERNATING SMALL;SIDE TO SIDE SCISSORS/1D928 SIGNWRITING MOVEMENT-* FINGER CONTACT:
    WALLPLANE;FLOORPLANE/1D92A SIGNWRITING MOVEMENT-WALLPLANE SINGLE STRAIGHT *:SMALL;MEDIUM;LARGE;
    LARGEST/1D92E SIGNWRITING MOVEMENT-WALLPLANE *:SINGLE WRIST FLEX;DOUBLE STRAIGHT;
    DOUBLE WRIST FLEX;DOUBLE ALTERNATING;DOUBLE ALTERNATING WRIST FLEX;CROSS;
    TRIPLE STRAIGHT MOVEMENT;TRIPLE WRIST FLEX;TRIPLE ALTERNATING;TRIPLE ALTERNATING WRIST FLEX;
    BEND SMALL;BEND MEDIUM;BEND LARGE;CORNER SMALL;CORNER MEDIUM;CORNER LARGE;CORNER ROTATION;
    CHECK SMALL;CHECK MEDIUM;CHECK LARGE;BOX SMALL;BOX MEDIUM;BOX LARGE;ZIGZAG SMALL;ZIGZAG MEDIUM;
    ZIGZAG LARGE;PEAKS SMALL;PEAKS MEDIUM;PEAKS LARGE/
    1D94B SIGNWRITING TRAVEL-WALLPLANE ROTATION-*:WALLPLANE SINGLE;WALLPLANE DOUBLE;
    WALLPLANE ALTERNATING;FLOORPLANE SINGLE;FLOORPLANE DOUBLE;FLOORPLANE ALTERNATING/
    1D951 SIGNWRITING TRAVEL-WALLPLANE *:SHAKING;ARM SPIRAL SINGLE;ARM SPIRAL DOUBLE;
    ARM SPIRAL TRIPLE/1D955 SIGNWRITING MOVEMENT-* SMALL|SIGNWRITING MOVEMENT-* MEDIUM|
    SIGNWRITING MOVEMENT-* LARGE|SIGNWRITING MOVEMENT-* LARGEST:DIAGONAL AWAY;DIAGONAL TOWARDS;
    DIAGONAL BETWEEN AWAY;DIAGONAL BETWEEN TOWARDS;FLOORPLANE SINGLE STRAIGHT/
    1D969 SIGNWRITING MOVEMENT-FLOORPLANE *:SINGLE WRIST FLEX;DOUBLE STRAIGHT;DOUBLE WRIST FLEX;
    DOUBLE ALTERNATING;DOUBLE ALTERNATING WRIST FLEX;CROSS;TRIPLE STRAIGHT MOVEMENT;
    TRIPLE WRIST FLEX;TRIPLE ALTERNATING MOVEMENT;TRIPLE ALTERNATING WRIST FLEX;BEND;CORNER SMALL;
    CORNER MEDIUM;CORNER LARGE;CHECK;BOX SMALL;BOX MEDIUM;BOX LARGE;ZIGZAG SMALL;ZIGZAG MEDIUM;
    ZIGZAG LARGE;PEAKS SMALL;PEAKS MEDIUM;PEAKS LARGE/
    1D981 SIGNWRITING TRAVEL-FLOORPLANE ROTATION-*:FLOORPLANE SINGLE;FLOORPLANE DOUBLE;
    FLOORPLANE ALTERNATING;WALLPLANE SINGLE;WALLPLANE DOUBLE;WALLPLANE ALTERNATING/
    1D987:SIGNWRITING TRAVEL-FLOORPLANE SHAKING/
    1D988 SIGNWRITING MOVEMENT-WALLPLANE CURVE QUARTER *:SMALL;MEDIUM;LARGE;LARGEST/
    1D98C SIGNWRITING MOVEMENT-WALLPLANE CURVE HALF-CIRCLE *:SMALL;MEDIUM;LARGE;LARGEST/
    1D990 SIGNWRITING MOVEMENT-WALLPLANE *:CURVE THREE-QUARTER CIRCLE SMALL;
    CURVE THREE-QUARTER CIRCLE MEDIUM;HUMP SMALL;HUMP MEDIUM;HUMP LARGE;LOOP SMALL;LOOP MEDIUM;
    LOOP LARGE;LOOP SMALL DOUBLE;WAVE CURVE DOUBLE SMALL;WAVE CURVE DOUBLE MEDIUM;
    WAVE CURVE DOUBLE LARGE;WAVE CURVE TRIPLE SMALL;WAVE CURVE TRIPLE MEDIUM;
    WAVE CURVE TRIPLE LARGE;CURVE THEN STRAIGHT;CURVED CROSS SMALL;CURVED CROSS MEDIUM/
    1D9A2 SIGNWRITING ROTATION-WALLPLANE *:SINGLE;DOUBLE;ALTERNATE/
    1D9A5:SIGNWRITING MOVEMENT-WALLPLANE SHAKING/
    1D9A6 SIGNWRITING MOVEMENT-WALLPLANE * HITTING FRONT WALL:CURVE;HUMP;LOOP;WAVE/
    1D9AA SIGNWRITING ROTATION-WALLPLANE * HITTING FRONT WALL:SINGLE;DOUBLE;ALTERNATING/
    1D9AD SIGNWRITING MOVEMENT-WALLPLANE * HITTING CHEST:CURVE;HUMP;LOOP;WAVE/
    1D9B1 SIGNWRITING ROTATION-WALLPLANE * HITTING CHEST:SINGLE;DOUBLE;ALTERNATING/
    1D9B4 SIGNWRITING MOVEMENT-WALLPLANE WAVE DIAGONAL PATH *:SMALL;MEDIUM;LARGE/
    1D9B7 SIGNWRITING MOVEMENT-FLOORPLANE CURVE HITTING CEILING *:SMALL;LARGE/
    1D9B9 SIGNWRITING MOVEMENT-FLOORPLANE HUMP HITTING CEILING *:SMALL DOUBLE;LARGE DOUBLE;
    SMALL TRIPLE;LARGE TRIPLE/1D9BD SIGNWRITING MOVEMENT-FLOORPLANE LOOP HITTING CEILING *:
    SMALL SINGLE;LARGE SINGLE;SMALL DOUBLE;LARGE DOUBLE/
    1D9C1 SIGNWRITING MOVEMENT-FLOORPLANE WAVE HITTING CEILING *:SMALL;LARGE/
    1D9C3 SIGNWRITING ROTATION-FLOORPLANE * HITTING CEILING:SINGLE;DOUBLE;ALTERNATING/
    1D9C6 SIGNWRITING MOVEMENT-FLOORPLANE CURVE HITTING FLOOR *:SMALL;LARGE/
    1D9C8 SIGNWRITING MOVEMENT-FLOORPLANE HUMP HITTING FLOOR *:SMALL DOUBLE;LARGE DOUBLE;
    TRIPLE SMALL TRIPLE;TRIPLE LARGE TRIPLE/
    1D9CC SIGNWRITING MOVEMENT-FLOORPLANE LOOP HITTING FLOOR *:SMALL SINGLE;LARGE SINGLE;
    SMALL DOUBLE;LARGE DOUBLE/1D9D0 SIGNWRITING MOVEMENT-FLOORPLANE WAVE HITTING FLOOR *:SMALL;
    LARGE/1D9D2 SIGNWRITING ROTATION-FLOORPLANE * HITTING FLOOR:SINGLE;DOUBLE;ALTERNATING/
    1D9D5 SIGNWRITING MOVEMENT-FLOORPLANE *:CURVE SMALL;CURVE MEDIUM;CURVE LARGE;CURVE LARGEST;
    CURVE COMBINED;HUMP SMALL;LOOP SMALL;WAVE SNAKE;WAVE SMALL;WAVE LARGE/
    1D9DF SIGNWRITING ROTATION-FLOORPLANE *:SINGLE;DOUBLE;ALTERNATING/
    1D9E2:SIGNWRITING MOVEMENT-FLOORPLANE SHAKING PARALLEL/
    1D9E3 SIGNWRITING MOVEMENT-WALLPLANE ARM CIRCLE *:SMALL SINGLE;MEDIUM SINGLE;SMALL DOUBLE;
    MEDIUM DOUBLE/1D9E7 SIGNWRITING MOVEMENT-FLOORPLANE ARM CIRCLE HITTING WALL *:SMALL SINGLE;
    MEDIUM SINGLE;LARGE SINGLE;SMALL DOUBLE;MEDIUM DOUBLE;LARGE DOUBLE/
    1D9ED SIGNWRITING MOVEMENT-* SINGLE|SIGNWRITING MOVEMENT-* DOUBLE:WALLPLANE WRIST CIRCLE FRONT;
    FLOORPLANE WRIST CIRCLE HITTING WALL;WALLPLANE FINGER CIRCLES;
    FLOORPLANE FINGER CIRCLES HITTING WALL/1D9F5 SIGNWRITING DYNAMIC *:ARROWHEAD SMALL;
    ARROWHEAD LARGE;FAST;SLOW;TENSE;RELAXED;SIMULTANEOUS;SIMULTANEOUS ALTERNATING;EVERY OTHER TIME;
    GRADUAL/1D9FF SIGNWRITING *:HEAD;HEAD RIM/1DA01 SIGNWRITING HEAD MOVEMENT-*:WALLPLANE STRAIGHT;
    WALLPLANE TILT;FLOORPLANE STRAIGHT;WALLPLANE CURVE;FLOORPLANE CURVE/
    1DA06:SIGNWRITING HEAD MOVEMENT CIRCLE/1DA07 SIGNWRITING FACE DIRECTION POSITION NOSE *:
    FORWARD TILTING;UP OR DOWN;UP OR DOWN TILTING/1DA0A SIGNWRITING EYEBROWS STRAIGHT *:UP;NEUTRAL;
    DOWN/1DA0D SIGNWRITING DREAMY EYEBROWS *:NEUTRAL DOWN;DOWN NEUTRAL;UP NEUTRAL;NEUTRAL UP/
    1DA11 SIGNWRITING *:FOREHEAD NEUTRAL;FOREHEAD CONTACT;FOREHEAD WRINKLED;EYES OPEN;
    EYES SQUEEZED;EYES CLOSED;EYE BLINK SINGLE;EYE BLINK MULTIPLE;EYES HALF OPEN;EYES WIDE OPEN;
    EYES HALF CLOSED;EYES WIDENING MOVEMENT;EYE WINK;EYELASHES UP;EYELASHES DOWN;
    EYELASHES FLUTTERING/1DA21 SIGNWRITING EYEGAZE-* STRAIGHT|
    SIGNWRITING EYEGAZE-* STRAIGHT DOUBLE|SIGNWRITING EYEGAZE-* STRAIGHT ALTERNATING:WALLPLANE;
    FLOORPLANE/1DA27 SIGNWRITING *:EYEGAZE-WALLPLANE CURVED;EYEGAZE-FLOORPLANE CURVED;
    EYEGAZE-WALLPLANE CIRCLING;CHEEKS PUFFED;CHEEKS NEUTRAL;CHEEKS SUCKED;TENSE CHEEKS HIGH;
    TENSE CHEEKS MIDDLE;TENSE CHEEKS LOW;EARS;NOSE NEUTRAL;NOSE CONTACT;NOSE WRINKLES;NOSE WIGGLES;
    AIR BLOWING OUT;AIR SUCKING IN;AIR BLOW SMALL ROTATIONS;AIR SUCK SMALL ROTATIONS;BREATH INHALE;
    BREATH EXHALE/1DA3B SIGNWRITING MOUTH *:CLOSED NEUTRAL;CLOSED FORWARD;CLOSED CONTACT;SMILE;
    SMILE WRINKLED;SMILE OPEN;FROWN;FROWN WRINKLED;FROWN OPEN;OPEN CIRCLE;OPEN FORWARD;
    OPEN WRINKLED;OPEN OVAL;OPEN OVAL WRINKLED;OPEN OVAL YAWN;OPEN RECTANGLE;
    OPEN RECTANGLE WRINKLED;OPEN RECTANGLE YAWN;KISS;KISS FORWARD;KISS WRINKLED;TENSE;
    TENSE FORWARD;TENSE SUCKED/1DA53 SIGNWRITING *:LIPS PRESSED TOGETHER;LIP LOWER OVER UPPER;
    LIP UPPER OVER LOWER;MOUTH CORNERS;MOUTH WRINKLES SINGLE;MOUTH WRINKLES DOUBLE/
    1DA59 SIGNWRITING TONGUE *:STICKING OUT FAR;LICKING LIPS;TIP BETWEEN LIPS;
    TIP TOUCHING INSIDE MOUTH;INSIDE MOUTH RELAXED;MOVES AGAINST CHEEK;CENTRE STICKING OUT;
    CENTRE INSIDE MOUTH/1DA61 SIGNWRITING *:TEETH;TEETH MOVEMENT;TEETH ON TONGUE;
    TEETH ON TONGUE MOVEMENT;TEETH ON LIPS;TEETH ON LIPS MOVEMENT;TEETH BITE LIPS;
    MOVEMENT-WALLPLANE JAW;MOVEMENT-FLOORPLANE JAW;NECK;HAIR;EXCITEMENT;SHOULDER HIP SPINE;
    SHOULDER HIP POSITIONS;WALLPLANE SHOULDER HIP MOVE;FLOORPLANE SHOULDER HIP MOVE;
    SHOULDER TILTING FROM WAIST;TORSO-WALLPLANE STRAIGHT STRETCH;TORSO-WALLPLANE CURVED BEND;
    TORSO-FLOORPLANE TWISTING;UPPER BODY TILTING FROM HIP JOINTS;LIMB COMBINATION/
    1DA77 SIGNWRITING LIMB LENGTH-*:1;2;3;4;5;6;7/1DA7E SIGNWRITING *:FINGER;
    LOCATION-WALLPLANE SPACE;LOCATION-FLOORPLANE SPACE/1DA81 SIGNWRITING LOCATION *:HEIGHT;WIDTH;
    DEPTH;HEAD NECK;TORSO;LIMBS DIGITS/1DA87 SIGNWRITING *:COMMA;FULL STOP;SEMICOLON;COLON;
    PARENTHESIS/1DA9B SIGNWRITING FILL MODIFIER-*:2;3;4;5;6/1DAA1 SIGNWRITING ROTATION MODIFIER-*:
    2;3;4;5;6;7;8;9;10;11;12;13;14;15;16/1DF00 LATIN *:SMALL LETTER FENG DIGRAPH WITH TRILL;
    SMALL LETTER REVERSED SCRIPT G;LETTER SMALL CAPITAL TURNED G;SMALL LETTER REVERSED K;
    LETTER SMALL CAPITAL L WITH BELT/1DF05 LATIN SMALL LETTER *:LEZH WITH RETROFLEX HOOK;
    TURNED Y WITH BELT;REVERSED ENG/1DF08 LATIN * RETROFLEX HOOK:
    SMALL LETTER TURNED R WITH LONG LEG AND;SMALL LETTER T WITH HOOK AND;
    LETTER RETROFLEX CLICK WITH/1DF0B LATIN SMALL LETTER ESH WITH DOUBLE *:BAR;BAR AND CURL/
    1DF0D LATIN * WITH CURL:SMALL LETTER TURNED T;LETTER INVERTED GLOTTAL STOP;LETTER STRETCHED C/
    1DF10 LATIN *:LETTER SMALL CAPITAL TURNED K;SMALL LETTER L WITH FISHHOOK/
    1DF12 LATIN SMALL LETTER * PALATAL HOOK:DEZH DIGRAPH WITH;L WITH BELT AND;ENG WITH;
    TURNED R WITH;R WITH FISHHOOK AND;TESH DIGRAPH WITH;EZH WITH/
    1DF19 LATIN SMALL LETTER * RETROFLEX HOOK:DEZH DIGRAPH WITH;I WITH STROKE AND;O WITH;
    TESH DIGRAPH WITH;C WITH/1DF1E:LATIN SMALL LETTER S WITH CURL/
    1E000 COMBINING GLAGOLITIC LETTER *:AZU;BUKY;VEDE;GLAGOLI;DOBRO;YESTU;ZHIVETE/
    1E008 COMBINING GLAGOLITIC LETTER *:ZEMLJA;IZHE;INITIAL IZHE;I;DJERVI;KAKO;LJUDIJE;MYSLITE;
    NASHI;ONU;POKOJI;RITSI;SLOVO;TVRIDO;UKU;FRITU;HERU/1E01B COMBINING GLAGOLITIC LETTER *:SHTA;
    TSI;CHRIVI;SHA;YERU;YERI;YATI/1E023 COMBINING GLAGOLITIC LETTER *:YU;SMALL YUS/
    1E026 COMBINING GLAGOLITIC LETTER *:YO;IOTATED SMALL YUS;BIG YUS;IOTATED BIG YUS;FITA/
    1E100 NYIAKENG PUACHUE HMONG LETTER *:MA;TSA;NTA;TA;HA;NA;XA;NKA;CA;LA;SA;ZA;NCA;NTSA;KA;DA;
    NYA;NRA;VA;NTXA;TXA;FA;RA;QA;YA;NQA;PA;XYA;NPA;DLA;NPLA;HAH;MLA;PLA;GA;RRA;A;AA;I;U;O;OO;E;EE;
    W/1E130 NYIAKENG PUACHUE HMONG TONE-*:B;M;J;V;S;G;D/1E137 NYIAKENG PUACHUE HMONG SIGN FOR *:
    PERSON;THING;LOCATION;ANIMAL;INVERTEBRATE/1E13C NYIAKENG PUACHUE HMONG *:SIGN XW XW;
    SYLLABLE LENGTHENER/1E140 NYIAKENG PUACHUE HMONG DIGIT *:ZERO;ONE;TWO;THREE;FOUR;FIVE;SIX;
    SEVEN;EIGHT;NINE/1E14E NYIAKENG PUACHUE HMONG *:LOGOGRAM NYAJ;CIRCLED CA/1E290 TOTO LETTER *:
    PA;BA;TA;DA;KA;GA;MA;NA;NGA;SA;CHA;YA;WA;JA;HA;RA;LA;I;BREATHY I;IU;BREATHY IU;U;E;BREATHY E;
    EO;BREATHY EO;O;AE;BREATHY AE;A/1E2AE:TOTO SIGN RISING TONE/1E2C0 WANCHO LETTER *:AA;A;BA;CA;
    DA;GA;YA;PHA;LA;NA;PA;TA;THA;FA;SA;SHA;JA;ZA;WA;VA;KA;O;AU;RA;MA;KHA;HA;E;I;NGA;U;LLHA;TSA;TRA;
    ONG;AANG;ANG;ING;ON;EN;AAN;NYA;UEN;YIH/1E2EC WANCHO TONE *:TUP;TUPNI;KOI;KOINI/
    1E2F0 WANCHO DIGIT *:ZERO;ONE;TWO;THREE;FOUR;FIVE;SIX;SEVEN;EIGHT;NINE/1E2FF:WANCHO NGUN SIGN/
    1E7E0 ETHIOPIC SYLLABLE *:HHYA;HHYU;HHYI;HHYAA;HHYEE;HHYE;HHYO/1E7E8 ETHIOPIC SYLLABLE *:
    GURAGE HHWA;HHWI;HHWEE;HHWE/1E7ED ETHIOPIC SYLLABLE GURAGE *:MWI;MWEE/
    1E7F0 ETHIOPIC SYLLABLE GURAGE *:QWI;QWEE;QWE;BWI;BWEE;KWI;KWEE;KWE;GWI;GWEE;GWE;FWI;FWEE;PWI;
    PWEE/1E800 MENDE KIKAKUI SYLLABLE *:M001 KI;M002 KA;M003 KU;M065 KEE;M095 KE;M076 KOO;M048 KO;
    M179 KUA;M004 WI;M005 WA;M006 WU;M126 WEE;M118 WE;M114 WOO;M045 WO;M194 WUI;M143 WEI;M061 WVI;
    M049 WVA;M139 WVE;M007 MIN;M008 MAN;M009 MUN;M059 MEN;M094 MON;M154 MUAN;M189 MUEN;M010 BI;
    M011 BA;M012 BU;M150 BEE;M097 BE;M103 BOO;M138 BO;M013 I;M014 A;M015 U;M163 EE;M100 E;M165 OO;
    M147 O;M137 EI;M131 IN;M135 IN;M195 AN;M178 EN;M019 SI;M020 SA;M021 SU;M162 SEE;M116 SE;
    M136 SOO;M079 SO;M196 SIA;M025 LI;M026 LA;M027 LU;M084 LEE;M073 LE;M054 LOO;M153 LO;
    M110 LONG LE;M016 DI;M017 DA;M018 DU;M089 DEE;M180 DOO;M181 DO;M022 TI;M023 TA;M024 TU;
    M091 TEE;M055 TE;M104 TOO;M069 TO;M028 JI;M029 JA;M030 JU;M157 JEE;M113 JE;M160 JOO;M063 JO;
    M175 LONG JO;M031 YI;M032 YA;M033 YU;M109 YEE;M080 YE;M141 YOO;M121 YO;M034 FI;M035 FA;M036 FU;
    M078 FEE;M075 FE;M133 FOO;M088 FO;M197 FUA;M101 FAN;M037 NIN;M038 NAN;M039 NUN;M117 NEN;
    M169 NON;M176 HI;M041 HA;M186 HU;M040 HEE;M096 HE;M042 HOO;M140 HO;M083 HEEI;M128 HOOU;
    M053 HIN;M130 HAN;M087 HUN;M052 HEN;M193 HON;M046 HUAN;M090 NGGI;M043 NGGA;M082 NGGU;
    M115 NGGEE;M146 NGGE;M156 NGGOO;M120 NGGO;M159 NGGAA;M127 NGGUA;M086 LONG NGGE;M106 LONG NGGOO;
    M183 LONG NGGO;M155 GI;M111 GA;M168 GU;M190 GEE;M166 GUEI;M167 GUAN;M184 NGEN;M057 NGON;
    M177 NGUAN;M068 PI;M099 PA;M050 PU;M081 PEE;M051 PE;M102 POO;M066 PO;M145 MBI;M062 MBA;
    M122 MBU;M047 MBEE;M188 MBEE;M072 MBE;M172 MBOO;M174 MBO;M187 MBUU;M161 LONG MBE;
    M105 LONG MBOO;M142 LONG MBO;M132 KPI;M092 KPA;M074 KPU;M044 KPEE;M108 KPE;M112 KPOO;M158 KPO;
    M124 GBI;M056 GBA;M148 GBU;M093 GBEE;M107 GBE;M071 GBOO;M070 GBO;M171 RA;M123 NDI;M129 NDA;
    M125 NDU;M191 NDEE;M119 NDE;M067 NDOO;M064 NDO;M152 NJA;M192 NJU;M149 NJEE;M134 NJOO;M182 VI;
    M185 VA;M151 VU;M173 VEE;M085 VE;M144 VOO;M077 VO;M164 NYIN;M058 NYAN;M170 NYUN;M098 NYEN;
    M060 NYON/1E8C7 MENDE KIKAKUI DIGIT *:ONE;TWO;THREE;FOUR;FIVE;SIX;SEVEN;EIGHT;NINE/
    1E8D0 MENDE KIKAKUI COMBINING NUMBER *:TEENS;TENS;HUNDREDS;THOUSANDS;TEN THOUSANDS;
    HUNDRED THOUSANDS;MILLIONS/1E900 ADLAM CAPITAL LETTER *:ALIF;DAALI;LAAM;MIIM;BA;SINNYIIYHE;PE;
    BHE;RA;E;FA;I;O;DHA;YHE;WAW;NUN;KAF;YA;U;JIIM;CHI;HA;QAAF;GA;NYA;TU;NHA;VA;KHA;GBE;ZAL;KPO;SHA/
    1E922 ADLAM SMALL LETTER *:ALIF;DAALI;LAAM;MIIM;BA;SINNYIIYHE;PE;BHE;RA;E;FA;I;O;DHA;YHE;WAW;
    NUN;KAF;YA;U;JIIM;CHI;HA;QAAF;GA;NYA;TU;NHA;VA;KHA;GBE;ZAL;KPO;SHA/1E944 ADLAM *:
    ALIF LENGTHENER;VOWEL LENGTHENER;GEMINATION MARK;HAMZA;CONSONANT MODIFIER;
    GEMINATE CONSONANT MODIFIER;NUKTA;NASALIZATION MARK/1E950 ADLAM DIGIT *:ZERO;ONE;TWO;THREE;
    FOUR;FIVE;SIX;SEVEN;EIGHT;NINE/1E95E ADLAM INITIAL * MARK:EXCLAMATION;QUESTION/
    1EC71 INDIC SIYAQ NUMBER *:ONE;TWO;THREE;FOUR;FIVE;SIX;SEVEN;EIGHT;NINE;TEN;TWENTY;THIRTY;
    FORTY;FIFTY;SIXTY;SEVENTY;EIGHTY;NINETY/1EC83 INDIC SIYAQ NUMBER * HUNDRED:ONE;TWO;THREE;FOUR;
    FIVE;SIX;SEVEN;EIGHT;NINE/1EC8C INDIC SIYAQ NUMBER * THOUSAND:ONE;TWO;THREE;FOUR;FIVE;SIX;
    SEVEN;EIGHT;NINE;TEN;TWENTY;THIRTY;FORTY;FIFTY;SIXTY;SEVENTY;EIGHTY;NINETY/1EC9E INDIC SIYAQ *:
    NUMBER LAKH;NUMBER LAKHAN;LAKH MARK;NUMBER KAROR;NUMBER KARORAN/
    1ECA3 INDIC SIYAQ NUMBER PREFIXED *:ONE;TWO;THREE;FOUR;FIVE;SIX;SEVEN;EIGHT;NINE/
    1ECAC INDIC SIYAQ *:PLACEHOLDER;FRACTION ONE QUARTER;FRACTION ONE HALF;FRACTION THREE QUARTERS;
    RUPEE MARK;NUMBER ALTERNATE ONE;NUMBER ALTERNATE TWO;NUMBER ALTERNATE TEN THOUSAND;
    ALTERNATE LAKH MARK/1ED01 OTTOMAN SIYAQ NUMBER *:ONE;TWO;THREE;FOUR;FIVE;SIX;SEVEN;EIGHT;NINE;
    TEN;TWENTY;THIRTY;FORTY;FIFTY;SIXTY;SEVENTY;EIGHTY;NINETY/1ED13 OTTOMAN SIYAQ NUMBER * HUNDRED:
    ONE;TWO;THREE;FOUR;FIVE;SIX;SEVEN;EIGHT;NINE/1ED1C OTTOMAN SIYAQ NUMBER * THOUSAND:ONE;TWO;
    THREE;FOUR;FIVE;SIX;SEVEN;EIGHT;NINE;TEN;TWENTY;THIRTY;FORTY;FIFTY;SIXTY;SEVENTY;EIGHTY;NINETY/
    1ED2E:OTTOMAN SIYAQ MARRATAN/1ED2F OTTOMAN SIYAQ ALTERNATE NUMBER *:TWO;THREE;FOUR;FIVE;SIX;
    SEVEN;EIGHT;NINE;TEN;FOUR HUNDRED;SIX HUNDRED;TWO THOUSAND;TEN THOUSAND/
    1ED3C OTTOMAN SIYAQ FRACTION ONE *:HALF;SIXTH/1EE00 ARABIC MATHEMATICAL *:ALEF;BEH;JEEM;DAL/
    1EE05 ARABIC MATHEMATICAL *:WAW;ZAIN;HAH;TAH;YEH;KAF;LAM;MEEM;NOON;SEEN;AIN;FEH;SAD;QAF;REH;
    SHEEN;TEH;THEH;KHAH;THAL;DAD;ZAH;GHAIN;DOTLESS BEH;DOTLESS NOON;DOTLESS FEH;DOTLESS QAF/
    1EE21 ARABIC MATHEMATICAL INITIAL *:BEH;JEEM/1EE24:ARABIC MATHEMATICAL INITIAL HEH/
    1EE27:ARABIC MATHEMATICAL INITIAL HAH/1EE29 ARABIC MATHEMATICAL INITIAL *:YEH;KAF;LAM;MEEM;
    NOON;SEEN;AIN;FEH;SAD;QAF/1EE34 ARABIC MATHEMATICAL INITIAL *:SHEEN;TEH;THEH;KHAH/
    1EE39:ARABIC MATHEMATICAL INITIAL DAD/1EE3B:ARABIC MATHEMATICAL INITIAL GHAIN/
    1EE42:ARABIC MATHEMATICAL TAILED JEEM/1EE47:ARABIC MATHEMATICAL TAILED HAH/
    1EE49:ARABIC MATHEMATICAL TAILED YEH/1EE4B:ARABIC MATHEMATICAL TAILED LAM/
    1EE4D ARABIC MATHEMATICAL TAILED *:NOON;SEEN;AIN/1EE51 ARABIC MATHEMATICAL TAILED *:SAD;QAF/
    1EE54:ARABIC MATHEMATICAL TAILED SHEEN/1EE57:ARABIC MATHEMATICAL TAILED KHAH/
    1EE59:ARABIC MATHEMATICAL TAILED DAD/1EE5B:ARABIC MATHEMATICAL TAILED GHAIN/
    1EE5D:ARABIC MATHEMATICAL TAILED DOTLESS NOON/1EE5F:ARABIC MATHEMATICAL TAILED DOTLESS QAF/
    1EE61 ARABIC MATHEMATICAL STRETCHED *:BEH;JEEM/1EE64:ARABIC MATHEMATICAL STRETCHED HEH/
    1EE67 ARABIC MATHEMATICAL STRETCHED *:HAH;TAH;YEH;KAF/1EE6C ARABIC MATHEMATICAL STRETCHED *:
    MEEM;NOON;SEEN;AIN;FEH;SAD;QAF/1EE74 ARABIC MATHEMATICAL STRETCHED *:SHEEN;TEH;THEH;KHAH/
    1EE79 ARABIC MATHEMATICAL STRETCHED *:DAD;ZAH;GHAIN;DOTLESS BEH/
    1EE7E:ARABIC MATHEMATICAL STRETCHED DOTLESS FEH/1EE80 ARABIC MATHEMATICAL LOOPED *:ALEF;BEH;
    JEEM;DAL;HEH;WAW;ZAIN;HAH;TAH;YEH/1EE8B ARABIC MATHEMATICAL LOOPED *:LAM;MEEM;NOON;SEEN;AIN;
    FEH;SAD;QAF;REH;SHEEN;TEH;THEH;KHAH;THAL;DAD;ZAH;GHAIN/
    1EEA1 ARABIC MATHEMATICAL DOUBLE-STRUCK *:BEH;JEEM;DAL/
    1EEA5 ARABIC MATHEMATICAL DOUBLE-STRUCK *:WAW;ZAIN;HAH;TAH;YEH/
    1EEAB ARABIC MATHEMATICAL DOUBLE-STRUCK *:LAM;MEEM;NOON;SEEN;AIN;FEH;SAD;QAF;REH;SHEEN;TEH;
    THEH;KHAH;THAL;DAD;ZAH;GHAIN/1EEF0 ARABIC MATHEMATICAL OPERATOR *:MEEM WITH HAH WITH TATWEEL;
    HAH WITH DAL/1F000 MAHJONG TILE * WIND:EAST;SOUTH;WEST;NORTH/1F004 MAHJONG TILE * DRAGON:RED;
    GREEN;WHITE/1F007 MAHJONG TILE * OF CHARACTERS:ONE;TWO;THREE;FOUR;FIVE;SIX;SEVEN;EIGHT;NINE/
    1F010 MAHJONG TILE * OF BAMBOOS:ONE;TWO;THREE;FOUR;FIVE;SIX;SEVEN;EIGHT;NINE/
    1F019 MAHJONG TILE * OF CIRCLES:ONE;TWO;THREE;FOUR;FIVE;SIX;SEVEN;EIGHT;NINE/
    1F022 MAHJONG TILE *:PLUM;ORCHID;BAMBOO;CHRYSANTHEMUM;SPRING;SUMMER;AUTUMN;WINTER;JOKER;BACK/
    1F030:DOMINO TILE HORIZONTAL BACK/1F031 DOMINO TILE HORIZONTAL-*:00-00;00-01;00-02;00-03;00-04;
    00-05;00-06;01-00;01-01;01-02;01-03;01-04;01-05;01-06;02-00;02-01;02-02;02-03;02-04;02-05;
    02-06;03-00;03-01;03-02;03-03;03-04;03-05;03-06;04-00;04-01;04-02;04-03;04-04;04-05;04-06;
    05-00;05-01;05-02;05-03;05-04;05-05;05-06;06-00;06-01;06-02;06-03;06-04;06-05;06-06/
    1F062:DOMINO TILE VERTICAL BACK/1F063 DOMINO TILE VERTICAL-*:00-00;00-01;00-02;00-03;00-04;
    00-05;00-06;01-00;01-01;01-02;01-03;01-04;01-05;01-06;02-00;02-01;02-02;02-03;02-04;02-05;
    02-06;03-00;03-01;03-02;03-03;03-04;03-05;03-06;04-00;04-01;04-02;04-03;04-04;04-05;04-06;
    05-00;05-01;05-02;05-03;05-04;05-05;05-06;06-00;06-01;06-02;06-03;06-04;06-05;06-06/
    1F0A0:PLAYING CARD BACK/1F0A1 PLAYING CARD * OF SPADES:ACE;TWO;THREE;FOUR;FIVE;SIX;SEVEN;EIGHT;
    NINE;TEN;JACK;KNIGHT;QUEEN;KING/1F0B1 PLAYING CARD * OF HEARTS:ACE;TWO;THREE;FOUR;FIVE;SIX;
    SEVEN;EIGHT;NINE;TEN;JACK;KNIGHT;QUEEN;KING/1F0BF:PLAYING CARD RED JOKER/
    1F0C1 PLAYING CARD * OF DIAMONDS:ACE;TWO;THREE;FOUR;FIVE;SIX;SEVEN;EIGHT;NINE;TEN;JACK;KNIGHT;
    QUEEN;KING/1F0CF:PLAYING CARD BLACK JOKER/1F0D1 PLAYING CARD * OF CLUBS:ACE;TWO;THREE;FOUR;
    FIVE;SIX;SEVEN;EIGHT;NINE;TEN;JACK;KNIGHT;QUEEN;KING/1F0DF PLAYING CARD *:WHITE JOKER;FOOL/
    1F0E1 PLAYING CARD TRUMP-*:1;2;3;4;5;6;7;8;9;10;11;12;13;14;15;16;17;18;19;20;21/
    1F100:DIGIT ZERO FULL STOP/1F101 DIGIT * COMMA:ZERO;ONE;TWO;THREE;FOUR;FIVE;SIX;SEVEN;EIGHT;
    NINE/1F10B DINGBAT * SANS-SERIF DIGIT ZERO:CIRCLED;NEGATIVE CIRCLED/1F10D CIRCLED *:
    ZERO WITH SLASH;ANTICLOCKWISE ARROW;DOLLAR SIGN WITH OVERLAID BACKSLASH/
    1F110 PARENTHESIZED LATIN CAPITAL LETTER *:A;B;C;D;E;F;G;H;I;J;K;L;M;N;O;P;Q;R;S;T;U;V;W;X;Y;Z/
    1F12A:TORTOISE SHELL BRACKETED LATIN CAPITAL LETTER S/
    1F12B CIRCLED ITALIC LATIN CAPITAL LETTER *:C;R/1F12D:CIRCLED CD;CIRCLED WZ;COPYLEFT SYMBOL/
    1F130 SQUARED LATIN CAPITAL LETTER *:A;B;C;D;E;F;G;H;I;J;K;L;M;N;O;P;Q;R;S;T;U;V;W;X;Y;Z/
    1F14A SQUARED *:HV;MV;SD;SS;PPV;WC/1F150 NEGATIVE CIRCLED LATIN CAPITAL LETTER *:A;B;C;D;E;F;G;
    H;I;J;K;L;M;N;O;P;Q;R;S;T;U;V;W;X;Y;Z/1F16A RAISED * SIGN:MC;MD;MR/1F16D CIRCLED *:CC;
    C WITH OVERLAID BACKSLASH;HUMAN FIGURE/1F170 NEGATIVE SQUARED LATIN CAPITAL LETTER *:A;B;C;D;E;
    F;G;H;I;J;K;L;M;N;O;P;Q;R;S;T;U;V;W;X;Y;Z/
    1F18A:CROSSED NEGATIVE SQUARED LATIN CAPITAL LETTER P/1F18B NEGATIVE SQUARED *:IC;PA;SA;AB;WC/
    1F190:SQUARE DJ/1F191 SQUARED *:CL;COOL;FREE;ID;NEW;NG;OK;SOS;UP WITH EXCLAMATION MARK;VS;
    THREE D;SECOND SCREEN;TWO K;FOUR K;EIGHT K;FIVE POINT ONE;SEVEN POINT ONE;TWENTY-TWO POINT TWO;
    SIXTY P;ONE HUNDRED TWENTY P;LATIN SMALL LETTER D;HC;HDR;HI-RES;LOSSLESS;SHV;UHD;VOD/
    1F1AD:MASK WORK SYMBOL/1F1E6 REGIONAL INDICATOR SYMBOL LETTER *:A;B;C;D;E;F;G;H;I;J;K;L;M;N;O;
    P;Q;R;S;T;U;V;W;X;Y;Z/1F200:SQUARE HIRAGANA HOKA/1F201 SQUARED KATAKANA *:KOKO;SA/
    1F210 SQUARED CJK UNIFIED IDEOGRAPH-*:624B;5B57;53CC/1F213:SQUARED KATAKANA DE/
    1F214 SQUARED CJK UNIFIED IDEOGRAPH-*:4E8C;591A;89E3;5929;4EA4;6620;7121;6599;524D;5F8C;518D;
    65B0;521D;7D42;751F;8CA9;58F0;5439;6F14;6295;6355;4E00;4E09;904A;5DE6;4E2D;53F3;6307;8D70;6253;
    7981;7A7A;5408;6E80;6709;6708;7533;5272;55B6;914D/
    1F240 TORTOISE SHELL BRACKETED CJK UNIFIED IDEOGRAPH-*:672C;4E09;4E8C;5B89;70B9;6253;76D7;52DD;
    6557/1F250 CIRCLED IDEOGRAPH *:ADVANTAGE;ACCEPT/1F260 ROUNDED SYMBOL FOR *:FU;LU;SHOU;XI;
    SHUANGXI;CAI/1F300:CYCLONE;FOGGY;CLOSED UMBRELLA;NIGHT WITH STARS;SUNRISE OVER MOUNTAINS;
    SUNRISE;CITYSCAPE AT DUSK;SUNSET OVER BUILDINGS;RAINBOW;BRIDGE AT NIGHT;WATER WAVE;VOLCANO;
    MILKY WAY/1F30D EARTH GLOBE *:EUROPE-AFRICA;AMERICAS;ASIA-AUSTRALIA/1F310:GLOBE WITH MERIDIANS/
    1F311 * MOON SYMBOL:NEW;WAXING CRESCENT;FIRST QUARTER;WAXING GIBBOUS;FULL;WANING GIBBOUS;
    LAST QUARTER;WANING CRESCENT/1F319:CRESCENT MOON/1F31A * MOON WITH FACE:NEW;FIRST QUARTER;
    LAST QUARTER;FULL/1F31E:SUN WITH FACE;GLOWING STAR;SHOOTING STAR;THERMOMETER;BLACK DROPLET;
    WHITE SUN/1F324 WHITE SUN *:WITH SMALL CLOUD;BEHIND CLOUD;BEHIND CLOUD WITH RAIN/
    1F327 CLOUD WITH *:RAIN;SNOW;LIGHTNING;TORNADO/1F32B:FOG;WIND BLOWING FACE;HOT DOG;TACO;
    BURRITO;CHESTNUT;SEEDLING;EVERGREEN TREE;DECIDUOUS TREE;PALM TREE;CACTUS;HOT PEPPER;TULIP;
    CHERRY BLOSSOM;ROSE;HIBISCUS;SUNFLOWER;BLOSSOM;EAR OF MAIZE;EAR OF RICE;HERB;FOUR LEAF CLOVER;
    MAPLE LEAF;FALLEN LEAF;LEAF FLUTTERING IN WIND;MUSHROOM;TOMATO;AUBERGINE;GRAPES;MELON;
    WATERMELON;TANGERINE;LEMON;BANANA;PINEAPPLE;RED APPLE;GREEN APPLE;PEAR;PEACH;CHERRIES;
    STRAWBERRY;HAMBURGER;SLICE OF PIZZA;MEAT ON BONE;POULTRY LEG;RICE CRACKER;RICE BALL;
    COOKED RICE;CURRY AND RICE;STEAMING BOWL;SPAGHETTI;BREAD/1F35F:FRENCH FRIES;
    ROASTED SWEET POTATO;DANGO;ODEN;SUSHI;FRIED SHRIMP;FISH CAKE WITH SWIRL DESIGN;SOFT ICE CREAM;
    SHAVED ICE;ICE CREAM;DOUGHNUT;COOKIE;CHOCOLATE BAR;CANDY;LOLLIPOP;CUSTARD;HONEY POT;SHORTCAKE;
    BENTO BOX;POT OF FOOD;COOKING;FORK AND KNIFE;TEACUP WITHOUT HANDLE;SAKE BOTTLE AND CUP;
    WINE GLASS;COCKTAIL GLASS;TROPICAL DRINK;BEER MUG;CLINKING BEER MUGS;BABY BOTTLE;
    FORK AND KNIFE WITH PLATE;BOTTLE WITH POPPING CORK;POPCORN;RIBBON;WRAPPED PRESENT;
    BIRTHDAY CAKE;JACK-O-LANTERN;CHRISTMAS TREE;FATHER CHRISTMAS;FIREWORKS;FIREWORK SPARKLER;
    BALLOON;PARTY POPPER;CONFETTI BALL;TANABATA TREE;CROSSED FLAGS;PINE DECORATION;JAPANESE DOLLS;
    CARP STREAMER;WIND CHIME;MOON VIEWING CEREMONY;SCHOOL SATCHEL;GRADUATION CAP;
    HEART WITH TIP ON THE LEFT;BOUQUET OF FLOWERS;MILITARY MEDAL;REMINDER RIBBON;
    MUSICAL KEYBOARD WITH JACKS;STUDIO MICROPHONE;LEVEL SLIDER;CONTROL KNOBS/
    1F39C BEAMED * MUSICAL NOTES:ASCENDING;DESCENDING/1F39E:FILM FRAMES;ADMISSION TICKETS;
    CAROUSEL HORSE;FERRIS WHEEL;ROLLER COASTER;FISHING POLE AND FISH;MICROPHONE;MOVIE CAMERA;
    CINEMA;HEADPHONE;ARTIST PALETTE;TOP HAT;CIRCUS TENT;TICKET;CLAPPER BOARD;PERFORMING ARTS;
    VIDEO GAME;DIRECT HIT;SLOT MACHINE;BILLIARDS;GAME DIE;BOWLING;FLOWER PLAYING CARDS;
    MUSICAL NOTE;MULTIPLE MUSICAL NOTES;SAXOPHONE;GUITAR;MUSICAL KEYBOARD;TRUMPET;VIOLIN;
    MUSICAL SCORE;RUNNING SHIRT WITH SASH/1F3BE:TENNIS RACQUET AND BALL;SKI AND SKI BOOT;
    BASKETBALL AND HOOP;CHEQUERED FLAG;SNOWBOARDER;RUNNER;SURFER;SPORTS MEDAL;TROPHY;HORSE RACING;
    AMERICAN FOOTBALL;RUGBY FOOTBALL;SWIMMER;WEIGHT LIFTER;GOLFER;RACING MOTORCYCLE;RACING CAR;
    CRICKET BAT AND BALL;VOLLEYBALL;FIELD HOCKEY STICK AND BALL;ICE HOCKEY STICK AND PUCK;
    TABLE TENNIS PADDLE AND BALL;SNOW CAPPED MOUNTAIN;CAMPING;BEACH WITH UMBRELLA;
    BUILDING CONSTRUCTION;HOUSE BUILDINGS;CITYSCAPE;DERELICT HOUSE BUILDING;CLASSICAL BUILDING;
    DESERT;DESERT ISLAND;NATIONAL PARK;STADIUM;HOUSE BUILDING;HOUSE WITH GARDEN;OFFICE BUILDING;
    JAPANESE POST OFFICE;EUROPEAN POST OFFICE;HOSPITAL;BANK;AUTOMATED TELLER MACHINE;HOTEL;
    LOVE HOTEL;CONVENIENCE STORE;SCHOOL;DEPARTMENT STORE;FACTORY;IZAKAYA LANTERN;JAPANESE CASTLE;
    EUROPEAN CASTLE;WHITE PENNANT;BLACK PENNANT;WAVING WHITE FLAG;WAVING BLACK FLAG;ROSETTE;
    BLACK ROSETTE;LABEL;BADMINTON RACQUET AND SHUTTLECOCK;BOW AND ARROW;AMPHORA/
    1F3FB EMOJI MODIFIER FITZPATRICK TYPE-*:1-2;3;4;5;6/1F400:RAT;MOUSE;OX;WATER BUFFALO;COW;TIGER;
    LEOPARD;RABBIT;CAT;DRAGON;CROCODILE;WHALE;SNAIL;SNAKE;HORSE;RAM;GOAT;SHEEP;MONKEY;ROOSTER;
    CHICKEN;DOG;PIG;BOAR;ELEPHANT;OCTOPUS;SPIRAL SHELL;BUG;ANT;HONEYBEE;LADY BEETLE;FISH;
    TROPICAL FISH;BLOWFISH;TURTLE;HATCHING CHICK;BABY CHICK;FRONT-FACING BABY CHICK;BIRD;PENGUIN;
    KOALA;POODLE;DROMEDARY CAMEL;BACTRIAN CAMEL;DOLPHIN/1F42D * FACE:MOUSE;COW;TIGER;RABBIT;CAT;
    DRAGON/1F433:SPOUTING WHALE/1F434 * FACE:HORSE;MONKEY;DOG;PIG;FROG;HAMSTER;WOLF;BEAR;PANDA/
    1F43D:PIG NOSE;PAW PRINTS;CHIPMUNK;EYES;EYE;EAR;NOSE;MOUTH;TONGUE/
    1F446 WHITE * POINTING BACKHAND INDEX:UP;DOWN;LEFT;RIGHT/1F44A * SIGN:FISTED HAND;WAVING HAND;
    OK HAND;THUMBS UP;THUMBS DOWN;CLAPPING HANDS;OPEN HANDS/1F451:CROWN;WOMANS HAT;EYEGLASSES;
    NECKTIE;T-SHIRT;JEANS;DRESS;KIMONO;BIKINI;WOMANS CLOTHES;PURSE;HANDBAG;POUCH;MANS SHOE;
    ATHLETIC SHOE;HIGH-HEELED SHOE;WOMANS SANDAL;WOMANS BOOTS;FOOTPRINTS;BUST IN SILHOUETTE;
    BUSTS IN SILHOUETTE;BOY;GIRL;MAN;WOMAN;FAMILY/1F46B * HOLDING HANDS:MAN AND WOMAN;TWO MEN;
    TWO WOMEN/1F46E:POLICE OFFICER;WOMAN WITH BUNNY EARS;BRIDE WITH VEIL;PERSON WITH BLOND HAIR;
    MAN WITH GUA PI MAO;MAN WITH TURBAN;OLDER MAN;OLDER WOMAN;BABY;CONSTRUCTION WORKER;PRINCESS;
    JAPANESE OGRE;JAPANESE GOBLIN;GHOST;BABY ANGEL;EXTRATERRESTRIAL ALIEN;ALIEN MONSTER;IMP;SKULL;
    INFORMATION DESK PERSON;GUARDSMAN;DANCER;LIPSTICK;NAIL POLISH;FACE MASSAGE;HAIRCUT;BARBER POLE;
    SYRINGE;PILL;KISS MARK;LOVE LETTER;RING;GEM STONE;KISS;BOUQUET;COUPLE WITH HEART;WEDDING;
    BEATING HEART;BROKEN HEART;TWO HEARTS;SPARKLING HEART;GROWING HEART;HEART WITH ARROW/
    1F499 * HEART:BLUE;GREEN;YELLOW;PURPLE/1F49D:HEART WITH RIBBON;REVOLVING HEARTS;
    HEART DECORATION;DIAMOND SHAPE WITH A DOT INSIDE;ELECTRIC LIGHT BULB;ANGER SYMBOL;BOMB;
    SLEEPING SYMBOL;COLLISION SYMBOL;SPLASHING SWEAT SYMBOL;DROPLET;DASH SYMBOL;PILE OF POO;
    FLEXED BICEPS;DIZZY SYMBOL;SPEECH BALLOON;THOUGHT BALLOON;WHITE FLOWER;HUNDRED POINTS SYMBOL;
    MONEY BAG;CURRENCY EXCHANGE;HEAVY DOLLAR SIGN;CREDIT CARD/1F4B4 BANKNOTE WITH * SIGN:YEN;
    DOLLAR;EURO;POUND/1F4B8:MONEY WITH WINGS;CHART WITH UPWARDS TREND AND YEN SIGN;SEAT;
    PERSONAL COMPUTER;BRIEFCASE;MINIDISC;FLOPPY DISK;OPTICAL DISC;DVD;FILE FOLDER;OPEN FILE FOLDER;
    PAGE WITH CURL;PAGE FACING UP;CALENDAR;TEAR-OFF CALENDAR;CARD INDEX;CHART WITH UPWARDS TREND;
    CHART WITH DOWNWARDS TREND;BAR CHART;CLIPBOARD;PUSHPIN;ROUND PUSHPIN;PAPERCLIP;STRAIGHT RULER;
    TRIANGULAR RULER;BOOKMARK TABS;LEDGER;NOTEBOOK;NOTEBOOK WITH DECORATIVE COVER;CLOSED BOOK;
    OPEN BOOK;GREEN BOOK;BLUE BOOK;ORANGE BOOK;BOOKS;NAME BADGE;SCROLL;MEMO;TELEPHONE RECEIVER;
    PAGER;FAX MACHINE;SATELLITE ANTENNA;PUBLIC ADDRESS LOUDSPEAKER;CHEERING MEGAPHONE;OUTBOX TRAY;
    INBOX TRAY;PACKAGE;E-MAIL SYMBOL;INCOMING ENVELOPE;ENVELOPE WITH DOWNWARDS ARROW ABOVE/
    1F4EA CLOSED MAILBOX WITH * FLAG:LOWERED;RAISED/1F4EC OPEN MAILBOX WITH * FLAG:RAISED;LOWERED/
    1F4EE:POSTBOX;POSTAL HORN;NEWSPAPER;MOBILE PHONE;MOBILE PHONE WITH RIGHTWARDS ARROW AT LEFT;
    VIBRATION MODE;MOBILE PHONE OFF;NO MOBILE PHONES;ANTENNA WITH BARS;CAMERA;CAMERA WITH FLASH;
    VIDEO CAMERA;TELEVISION;RADIO;VIDEOCASSETTE;FILM PROJECTOR;PORTABLE STEREO;PRAYER BEADS;
    TWISTED RIGHTWARDS ARROWS/1F501 CLOCKWISE RIGHTWARDS AND LEFTWARDS OPEN CIRCLE *:ARROWS;
    ARROWS WITH CIRCLED ONE OVERLAY/1F503 * DOWNWARDS AND UPWARDS OPEN CIRCLE ARROWS:CLOCKWISE;
    ANTICLOCKWISE/1F505 * BRIGHTNESS SYMBOL:LOW;HIGH/1F507:SPEAKER WITH CANCELLATION STROKE;
    SPEAKER;SPEAKER WITH ONE SOUND WAVE;SPEAKER WITH THREE SOUND WAVES;BATTERY;ELECTRIC PLUG/
    1F50D *-POINTING MAGNIFYING GLASS:LEFT;RIGHT/1F50F:LOCK WITH INK PEN;CLOSED LOCK WITH KEY;KEY;
    LOCK;OPEN LOCK;BELL;BELL WITH CANCELLATION STROKE;BOOKMARK;LINK SYMBOL;RADIO BUTTON/
    1F519 * ARROW ABOVE:BACK WITH LEFTWARDS;END WITH LEFTWARDS;
    ON WITH EXCLAMATION MARK WITH LEFT RIGHT;SOON WITH RIGHTWARDS;TOP WITH UPWARDS/
    1F51E:NO ONE UNDER EIGHTEEN SYMBOL;KEYCAP TEN/1F520 INPUT SYMBOL FOR *:LATIN CAPITAL LETTERS;
    LATIN SMALL LETTERS;NUMBERS;SYMBOLS;LATIN LETTERS/1F525:FIRE;ELECTRIC TORCH;WRENCH;HAMMER;
    NUT AND BOLT;HOCHO;PISTOL;MICROSCOPE;TELESCOPE;CRYSTAL BALL;SIX POINTED STAR WITH MIDDLE DOT;
    JAPANESE SYMBOL FOR BEGINNER;TRIDENT EMBLEM/1F532 * SQUARE BUTTON:BLACK;WHITE/
    1F534 LARGE * CIRCLE:RED;BLUE/1F536 * ORANGE DIAMOND|* BLUE DIAMOND:LARGE;SMALL/
    1F53A UP-POINTING * TRIANGLE|DOWN-POINTING * TRIANGLE:RED;SMALL RED/
    1F53E * RIGHT SHADOWED WHITE CIRCLE:LOWER;UPPER/1F540:CIRCLED CROSS POMMEE;
    CROSS POMMEE WITH HALF-CIRCLE BELOW;CROSS POMMEE/1F543 NOTCHED * SEMICIRCLE WITH THREE DOTS:
    LEFT;RIGHT/1F545:SYMBOL FOR MARKS CHAPTER;WHITE LATIN CROSS;HEAVY LATIN CROSS;CELTIC CROSS;
    OM SYMBOL;DOVE OF PEACE;KAABA;MOSQUE;SYNAGOGUE;MENORAH WITH NINE BRANCHES;BOWL OF HYGIEIA/
    1F550 CLOCK FACE * OCLOCK:ONE;TWO;THREE;FOUR;FIVE;SIX;SEVEN;EIGHT;NINE;TEN;ELEVEN;TWELVE/
    1F55C CLOCK FACE *-THIRTY:ONE;TWO;THREE;FOUR;FIVE;SIX;SEVEN;EIGHT;NINE;TEN;ELEVEN;TWELVE/
    1F568 RIGHT *:SPEAKER;SPEAKER WITH ONE SOUND WAVE;SPEAKER WITH THREE SOUND WAVES/
    1F56B:BULLHORN;BULLHORN WITH SOUND WAVES;RINGING BELL;BOOK;CANDLE;MANTELPIECE CLOCK;
    BLACK SKULL AND CROSSBONES;NO PIRACY;HOLE;MAN IN BUSINESS SUIT LEVITATING;SLEUTH OR SPY;
    DARK SUNGLASSES;SPIDER;SPIDER WEB;JOYSTICK;MAN DANCING;LEFT HAND TELEPHONE RECEIVER;
    TELEPHONE RECEIVER WITH PAGE;RIGHT HAND TELEPHONE RECEIVER/1F57E * TOUCHTONE TELEPHONE:WHITE;
    BLACK/1F580:TELEPHONE ON TOP OF MODEM;CLAMSHELL MOBILE PHONE;BACK OF ENVELOPE;STAMPED ENVELOPE;
    ENVELOPE WITH LIGHTNING;FLYING ENVELOPE;PEN OVER STAMPED ENVELOPE;LINKED PAPERCLIPS;
    BLACK PUSHPIN/1F589 LOWER LEFT *:PENCIL;BALLPOINT PEN;FOUNTAIN PEN;PAINTBRUSH;CRAYON/
    1F58E:LEFT WRITING HAND;TURNED OK HAND SIGN/1F590 * HAND WITH FINGERS SPLAYED:RAISED;
    REVERSED RAISED/1F592 REVERSED *:THUMBS UP SIGN;THUMBS DOWN SIGN;VICTORY HAND;
    HAND WITH MIDDLE FINGER EXTENDED/1F596:RAISED HAND WITH PART BETWEEN MIDDLE AND RING FINGERS;
    WHITE DOWN POINTING LEFT HAND INDEX/1F598 SIDEWAYS * POINTING INDEX:WHITE LEFT;WHITE RIGHT;
    BLACK LEFT;BLACK RIGHT/1F59C BLACK * POINTING BACKHAND INDEX:LEFT;RIGHT/
    1F59E SIDEWAYS * POINTING INDEX:WHITE UP;WHITE DOWN;BLACK UP;BLACK DOWN/
    1F5A2 BLACK * POINTING BACKHAND INDEX:UP;DOWN/1F5A4:BLACK HEART;DESKTOP COMPUTER;
    KEYBOARD AND MOUSE;THREE NETWORKED COMPUTERS;PRINTER;POCKET CALCULATOR/
    1F5AA * SHELL FLOPPY DISK:BLACK HARD;WHITE HARD;SOFT/1F5AD:TAPE CARTRIDGE;WIRED KEYBOARD/
    1F5AF * BUTTON MOUSE:ONE;TWO;THREE/1F5B2:TRACKBALL;OLD PERSONAL COMPUTER;HARD DISK;SCREEN;
    PRINTER ICON;FAX ICON;OPTICAL DISC ICON/1F5B9 DOCUMENT WITH *:TEXT;TEXT AND PICTURE;PICTURE/
    1F5BC FRAME WITH *:PICTURE;TILES;AN X/1F5BF:BLACK FOLDER;FOLDER;OPEN FOLDER;
    CARD INDEX DIVIDERS;CARD FILE BOX;FILE CABINET;EMPTY NOTE;EMPTY NOTE PAGE;EMPTY NOTE PAD;NOTE;
    NOTE PAGE;NOTE PAD;EMPTY DOCUMENT;EMPTY PAGE;EMPTY PAGES;DOCUMENT;PAGE;PAGES;WASTEBASKET;
    SPIRAL NOTE PAD;SPIRAL CALENDAR PAD;DESKTOP WINDOW;MINIMIZE;MAXIMIZE;OVERLAP;
    CLOCKWISE RIGHT AND LEFT SEMICIRCLE ARROWS;CANCELLATION X;INCREASE FONT SIZE SYMBOL;
    DECREASE FONT SIZE SYMBOL;COMPRESSION;OLD KEY;ROLLED-UP NEWSPAPER;PAGE WITH CIRCLED TEXT;
    STOCK CHART;DAGGER KNIFE;LIPS;SPEAKING HEAD IN SILHOUETTE/1F5E4 THREE RAYS *:ABOVE;BELOW;LEFT;
    RIGHT/1F5E8 * SPEECH BUBBLE:LEFT;RIGHT/1F5EA * SPEECH BUBBLES:TWO;THREE/1F5EC LEFT * BUBBLE|
    RIGHT * BUBBLE:THOUGHT;ANGER/1F5F0:MOOD BUBBLE;LIGHTNING MOOD BUBBLE;LIGHTNING MOOD;
    BALLOT BOX WITH BALLOT/1F5F4 BALLOT * X|BALLOT BOX WITH * X:SCRIPT;BOLD SCRIPT/
    1F5F8:LIGHT CHECK MARK;BALLOT BOX WITH BOLD CHECK;WORLD MAP;MOUNT FUJI;TOKYO TOWER;
    STATUE OF LIBERTY;SILHOUETTE OF JAPAN;MOYAI;GRINNING FACE;GRINNING FACE WITH SMILING EYES;
    FACE WITH TEARS OF JOY/1F603 SMILING FACE WITH *:OPEN MOUTH;OPEN MOUTH AND SMILING EYES;
    OPEN MOUTH AND COLD SWEAT;OPEN MOUTH AND TIGHTLY-CLOSED EYES;HALO;HORNS/1F609:WINKING FACE;
    SMILING FACE WITH SMILING EYES;FACE SAVOURING DELICIOUS FOOD;RELIEVED FACE/
    1F60D SMILING FACE WITH *:HEART-SHAPED EYES;SUNGLASSES/1F60F * FACE:SMIRKING;NEUTRAL;
    EXPRESSIONLESS;UNAMUSED/1F613:FACE WITH COLD SWEAT;PENSIVE FACE;CONFUSED FACE;CONFOUNDED FACE;
    KISSING FACE;FACE THROWING A KISS/1F619 KISSING FACE WITH * EYES:SMILING;CLOSED/
    1F61B FACE WITH STUCK-OUT *:TONGUE;TONGUE AND WINKING EYE;TONGUE AND TIGHTLY-CLOSED EYES/
    1F61E * FACE:DISAPPOINTED;WORRIED;ANGRY;POUTING;CRYING;PERSEVERING/
    1F624:FACE WITH LOOK OF TRIUMPH;DISAPPOINTED BUT RELIEVED FACE;FROWNING FACE WITH OPEN MOUTH/
    1F627 * FACE:ANGUISHED;FEARFUL;WEARY;SLEEPY;TIRED;GRIMACING;LOUDLY CRYING/
    1F62E:FACE WITH OPEN MOUTH;HUSHED FACE;FACE WITH OPEN MOUTH AND COLD SWEAT;
    FACE SCREAMING IN FEAR;ASTONISHED FACE;FLUSHED FACE;SLEEPING FACE;DIZZY FACE;
    FACE WITHOUT MOUTH;FACE WITH MEDICAL MASK;GRINNING CAT FACE WITH SMILING EYES;
    CAT FACE WITH TEARS OF JOY/1F63A SMILING CAT FACE WITH *:OPEN MOUTH;HEART-SHAPED EYES/
    1F63C:CAT FACE WITH WRY SMILE;KISSING CAT FACE WITH CLOSED EYES/1F63E * FACE:POUTING CAT;
    CRYING CAT;WEARY CAT;SLIGHTLY FROWNING;SLIGHTLY SMILING;UPSIDE-DOWN/1F644 FACE WITH *:
    ROLLING EYES;NO GOOD GESTURE;OK GESTURE/1F647:PERSON BOWING DEEPLY/1F648 *-NO-EVIL MONKEY:SEE;
    HEAR;SPEAK/1F64B:HAPPY PERSON RAISING ONE HAND/1F64C PERSON *:
    RAISING BOTH HANDS IN CELEBRATION;FROWNING;WITH POUTING FACE;WITH FOLDED HANDS/
    1F650 NORTH * POINTING LEAF|SOUTH * POINTING LEAF:WEST;EAST/1F654 TURNED NORTH * POINTING LEAF|
    TURNED SOUTH * POINTING LEAF:WEST;EAST/1F658 * POINTING VINE LEAF:NORTH WEST;SOUTH WEST;
    NORTH EAST;SOUTH EAST;HEAVY NORTH WEST;HEAVY SOUTH WEST;HEAVY NORTH EAST;HEAVY SOUTH EAST/
    1F660 NORTH * POINTING BUD|SOUTH * POINTING BUD:WEST;EAST/1F664 HEAVY NORTH * POINTING BUD|
    HEAVY SOUTH * POINTING BUD:WEST;EAST/1F668 * QUILT SQUARE ORNAMENT|
    * QUILT SQUARE ORNAMENT IN BLACK SQUARE:HOLLOW;SOLID/1F66C * ROCKET:LEFTWARDS;UPWARDS;
    RIGHTWARDS;DOWNWARDS/1F670 * ET ORNAMENT|HEAVY * ET ORNAMENT:SCRIPT LIGATURE;LIGATURE OPEN/
    1F674 * AMPERSAND ORNAMENT:HEAVY;SWASH/1F676 SANS-SERIF HEAVY * COMMA QUOTATION MARK ORNAMENT:
    DOUBLE TURNED;DOUBLE;LOW DOUBLE/1F679 * INTERROBANG ORNAMENT:HEAVY;SANS-SERIF;HEAVY SANS-SERIF/
    1F67C VERY HEAVY *:SOLIDUS;REVERSE SOLIDUS/1F67E:CHECKER BOARD;REVERSE CHECKER BOARD;ROCKET;
    HELICOPTER;STEAM LOCOMOTIVE;RAILWAY CAR;HIGH-SPEED TRAIN;HIGH-SPEED TRAIN WITH BULLET NOSE;
    TRAIN;METRO;LIGHT RAIL;STATION;TRAM;TRAM CAR;BUS;ONCOMING BUS;TROLLEYBUS;BUS STOP;MINIBUS;
    AMBULANCE;FIRE ENGINE/1F693 *|ONCOMING *:POLICE CAR;TAXI;AUTOMOBILE/1F699:RECREATIONAL VEHICLE;
    DELIVERY TRUCK;ARTICULATED LORRY;TRACTOR;MONORAIL;MOUNTAIN RAILWAY;SUSPENSION RAILWAY;
    MOUNTAIN CABLEWAY;AERIAL TRAMWAY;SHIP;ROWBOAT;SPEEDBOAT;HORIZONTAL TRAFFIC LIGHT;
    VERTICAL TRAFFIC LIGHT;CONSTRUCTION SIGN;POLICE CARS REVOLVING LIGHT;TRIANGULAR FLAG ON POST;
    DOOR;NO ENTRY SIGN/1F6AC * SYMBOL:SMOKING;NO SMOKING;PUT LITTER IN ITS PLACE;DO NOT LITTER;
    POTABLE WATER;NON-POTABLE WATER/1F6B2:BICYCLE;NO BICYCLES;BICYCLIST;MOUNTAIN BICYCLIST;
    PEDESTRIAN;NO PEDESTRIANS;CHILDREN CROSSING;MENS SYMBOL;WOMENS SYMBOL;RESTROOM;BABY SYMBOL;
    TOILET;WATER CLOSET;SHOWER;BATH;BATHTUB;PASSPORT CONTROL;CUSTOMS;BAGGAGE CLAIM;LEFT LUGGAGE;
    TRIANGLE WITH ROUNDED CORNERS;PROHIBITED SIGN;CIRCLED INFORMATION SOURCE;BOYS SYMBOL;
    GIRLS SYMBOL;COUCH AND LAMP;SLEEPING ACCOMMODATION;SHOPPING BAGS;BELLHOP BELL;BED;
    PLACE OF WORSHIP;OCTAGONAL SIGN;SHOPPING TROLLEY;STUPA;PAGODA;HINDU TEMPLE;HUT;ELEVATOR/
    1F6DD:PLAYGROUND SLIDE;WHEEL;RING BUOY;HAMMER AND WRENCH;SHIELD;OIL DRUM;MOTORWAY;
    RAILWAY TRACK;MOTOR BOAT/1F6E6 * AIRPLANE:UP-POINTING MILITARY;UP-POINTING;UP-POINTING SMALL;
    SMALL;NORTHEAST-POINTING/1F6EB AIRPLANE *:DEPARTURE;ARRIVING/1F6F0:SATELLITE;
    ONCOMING FIRE ENGINE;DIESEL LOCOMOTIVE;PASSENGER SHIP;SCOOTER;MOTOR SCOOTER;CANOE;SLED;
    FLYING SAUCER;SKATEBOARD;AUTO RICKSHAW;PICKUP TRUCK;ROLLER SKATE/1F700 ALCHEMICAL SYMBOL FOR *:
    QUINTESSENCE;AIR;FIRE;EARTH;WATER;AQUAFORTIS;AQUA REGIA;AQUA REGIA-2;AQUA VITAE;AQUA VITAE-2;
    VINEGAR;VINEGAR-2;VINEGAR-3;SULFUR;PHILOSOPHERS SULFUR;BLACK SULFUR;MERCURY SUBLIMATE;
    MERCURY SUBLIMATE-2;MERCURY SUBLIMATE-3;CINNABAR;SALT;NITRE;VITRIOL;VITRIOL-2;ROCK SALT;
    ROCK SALT-2;GOLD;SILVER;IRON ORE;IRON ORE-2;CROCUS OF IRON;REGULUS OF IRON;COPPER ORE;
    IRON-COPPER ORE;SUBLIMATE OF COPPER;CROCUS OF COPPER;CROCUS OF COPPER-2;COPPER ANTIMONIATE;
    SALT OF COPPER ANTIMONIATE;SUBLIMATE OF SALT OF COPPER;VERDIGRIS;TIN ORE;LEAD ORE;ANTIMONY ORE;
    SUBLIMATE OF ANTIMONY;SALT OF ANTIMONY;SUBLIMATE OF SALT OF ANTIMONY;VINEGAR OF ANTIMONY;
    REGULUS OF ANTIMONY;REGULUS OF ANTIMONY-2;REGULUS;REGULUS-2;REGULUS-3;REGULUS-4;ALKALI;
    ALKALI-2;MARCASITE;SAL-AMMONIAC;ARSENIC;REALGAR;REALGAR-2;AURIPIGMENT;BISMUTH ORE;TARTAR;
    TARTAR-2;QUICK LIME;BORAX;BORAX-2;BORAX-3;ALUM;OIL;SPIRIT;TINCTURE;GUM;WAX;POWDER;CALX;TUTTY;
    CAPUT MORTUUM;SCEPTER OF JOVE;CADUCEUS;TRIDENT;STARRED TRIDENT;LODESTONE;SOAP;URINE;HORSE DUNG;
    ASHES;POT ASHES;BRICK;POWDERED BRICK;AMALGAM;STRATUM SUPER STRATUM;STRATUM SUPER STRATUM-2;
    SUBLIMATION;PRECIPITATE;DISTILL;DISSOLVE;DISSOLVE-2;PURIFY;PUTREFACTION;CRUCIBLE;CRUCIBLE-2;
    CRUCIBLE-3;CRUCIBLE-4;CRUCIBLE-5;ALEMBIC;BATH OF MARY;BATH OF VAPOURS;RETORT;HOUR;NIGHT;
    DAY-NIGHT;MONTH;HALF DRAM;HALF OUNCE/1F780 BLACK *-POINTING ISOSCELES RIGHT TRIANGLE:LEFT;UP;
    RIGHT;DOWN/1F784:BLACK SLIGHTLY SMALL CIRCLE/1F785 * WHITE CIRCLE:MEDIUM BOLD;BOLD;HEAVY;
    VERY HEAVY;EXTREMELY HEAVY/1F78A:WHITE CIRCLE CONTAINING BLACK SMALL CIRCLE;ROUND TARGET/
    1F78C BLACK * SQUARE:TINY;SLIGHTLY SMALL/1F78E * WHITE SQUARE:LIGHT;MEDIUM;BOLD;HEAVY;
    VERY HEAVY;EXTREMELY HEAVY/1F794 WHITE SQUARE CONTAINING BLACK * SQUARE:VERY SMALL;MEDIUM/
    1F796:SQUARE TARGET/1F797 BLACK * DIAMOND:TINY;VERY SMALL;MEDIUM SMALL/
    1F79A WHITE DIAMOND CONTAINING BLACK * DIAMOND:VERY SMALL;MEDIUM/1F79C:DIAMOND TARGET;
    BLACK TINY LOZENGE/1F79E * SMALL LOZENGE:BLACK VERY;BLACK MEDIUM;
    WHITE LOZENGE CONTAINING BLACK/1F7A1 * GREEK CROSS:THIN;LIGHT;MEDIUM;BOLD;VERY BOLD;VERY HEAVY;
    EXTREMELY HEAVY/1F7A8 * SALTIRE:THIN;LIGHT;MEDIUM;BOLD;HEAVY;VERY HEAVY;EXTREMELY HEAVY/
    1F7AF * FIVE SPOKED ASTERISK:LIGHT;MEDIUM;BOLD;HEAVY;VERY HEAVY;EXTREMELY HEAVY/
    1F7B5 * SIX SPOKED ASTERISK:LIGHT;MEDIUM;BOLD;HEAVY;VERY HEAVY;EXTREMELY HEAVY/
    1F7BB * EIGHT SPOKED ASTERISK:LIGHT;MEDIUM;BOLD;HEAVY;VERY HEAVY/
    1F7C0 LIGHT * POINTED BLACK STAR|MEDIUM * POINTED BLACK STAR|* POINTED BLACK STAR|
    MEDIUM * POINTED PINWHEEL STAR:THREE;FOUR/1F7C8:REVERSE LIGHT FOUR POINTED PINWHEEL STAR/
    1F7C9 * POINTED BLACK STAR:LIGHT FIVE;HEAVY FIVE;MEDIUM SIX;HEAVY SIX/
    1F7CD:SIX POINTED PINWHEEL STAR/1F7CE * EIGHT POINTED BLACK STAR:MEDIUM;HEAVY;VERY HEAVY/
    1F7D1 * STAR:HEAVY EIGHT POINTED PINWHEEL;LIGHT TWELVE POINTED BLACK/
    1F7D3 HEAVY TWELVE POINTED * STAR:BLACK;PINWHEEL/1F7D5 CIRCLED *|NEGATIVE CIRCLED *:TRIANGLE;
    SQUARE/1F7E0 LARGE * CIRCLE:ORANGE;YELLOW;GREEN;PURPLE;BROWN/1F7E5 LARGE * SQUARE:RED;BLUE;
    ORANGE;YELLOW;GREEN;PURPLE;BROWN/1F7F0:HEAVY EQUALS SIGN/
    1F800 LEFTWARDS ARROW WITH * TRIANGLE ARROWHEAD|UPWARDS ARROW WITH * TRIANGLE ARROWHEAD|
    RIGHTWARDS ARROW WITH * TRIANGLE ARROWHEAD|DOWNWARDS ARROW WITH * TRIANGLE ARROWHEAD:SMALL;
    MEDIUM;LARGE/1F810 * ARROW WITH SMALL EQUILATERAL ARROWHEAD:LEFTWARDS;UPWARDS;RIGHTWARDS;
    DOWNWARDS/1F814 * ARROW WITH EQUILATERAL ARROWHEAD:LEFTWARDS;UPWARDS;RIGHTWARDS;DOWNWARDS;
    HEAVY LEFTWARDS;HEAVY UPWARDS;HEAVY RIGHTWARDS;HEAVY DOWNWARDS/
    1F81C HEAVY * ARROW WITH LARGE EQUILATERAL ARROWHEAD:LEFTWARDS;UPWARDS;RIGHTWARDS;DOWNWARDS/
    1F820 LEFTWARDS *|UPWARDS *|RIGHTWARDS *|DOWNWARDS *:TRIANGLE-HEADED ARROW WITH NARROW SHAFT;
    TRIANGLE-HEADED ARROW WITH MEDIUM SHAFT;TRIANGLE-HEADED ARROW WITH BOLD SHAFT;
    TRIANGLE-HEADED ARROW WITH HEAVY SHAFT;TRIANGLE-HEADED ARROW WITH VERY HEAVY SHAFT;
    FINGER-POST ARROW;SQUARED ARROW;COMPRESSED ARROW;HEAVY COMPRESSED ARROW;HEAVY ARROW/
    1F850 * SANS-SERIF ARROW:LEFTWARDS;UPWARDS;RIGHTWARDS;DOWNWARDS;NORTH WEST;NORTH EAST;
    SOUTH EAST;SOUTH WEST;LEFT RIGHT;UP DOWN/1F860 WIDE-HEADED * LIGHT BARB ARROW:LEFTWARDS;
    UPWARDS;RIGHTWARDS;DOWNWARDS;NORTH WEST;NORTH EAST;SOUTH EAST;SOUTH WEST/
    1F868 WIDE-HEADED * BARB ARROW:LEFTWARDS;UPWARDS;RIGHTWARDS;DOWNWARDS;NORTH WEST;NORTH EAST;
    SOUTH EAST;SOUTH WEST/1F870 WIDE-HEADED * MEDIUM BARB ARROW:LEFTWARDS;UPWARDS;RIGHTWARDS;
    DOWNWARDS;NORTH WEST;NORTH EAST;SOUTH EAST;SOUTH WEST/1F878 WIDE-HEADED * HEAVY BARB ARROW:
    LEFTWARDS;UPWARDS;RIGHTWARDS;DOWNWARDS;NORTH WEST;NORTH EAST;SOUTH EAST;SOUTH WEST;
    LEFTWARDS VERY;UPWARDS VERY;RIGHTWARDS VERY;DOWNWARDS VERY;NORTH WEST VERY;NORTH EAST VERY;
    SOUTH EAST VERY;SOUTH WEST VERY/1F890 LEFTWARDS *|UPWARDS *|RIGHTWARDS *|DOWNWARDS *:
    TRIANGLE ARROWHEAD;WHITE ARROW WITHIN TRIANGLE ARROWHEAD;ARROW WITH NOTCHED TAIL/
    1F89C HEAVY ARROW SHAFT WIDTH *:ONE;TWO THIRDS;ONE HALF;ONE THIRD/1F8A0 *SHADED WHITE ARROW:
    LEFTWARDS BOTTOM-;RIGHTWARDS BOTTOM ;LEFTWARDS TOP ;RIGHTWARDS TOP ;LEFTWARDS LEFT-;
    RIGHTWARDS RIGHT-;LEFTWARDS RIGHT-;RIGHTWARDS LEFT-/
    1F8A8 LEFTWARDS *-TILTED SHADOWED WHITE ARROW|RIGHTWARDS *-TILTED SHADOWED WHITE ARROW:BACK;
    FRONT/1F8AC WHITE ARROW SHAFT WIDTH *:ONE;TWO THIRDS/1F8B0 ARROW POINTING * WEST:
    UPWARDS THEN NORTH;RIGHTWARDS THEN CURVING SOUTH/1F900 CIRCLED CROSS *:FORMEE WITH FOUR DOTS;
    FORMEE WITH TWO DOTS;FORMEE/1F903 LEFT HALF CIRCLE WITH *:FOUR DOTS;THREE DOTS;TWO DOTS;DOT/
    1F907:LEFT HALF CIRCLE/1F908 DOWNWARD FACING *|DOWNWARD FACING NOTCHED *:HOOK;HOOK WITH DOT/
    1F90C:PINCHED FINGERS;WHITE HEART;BROWN HEART;PINCHING HAND;ZIPPER-MOUTH FACE;MONEY-MOUTH FACE;
    FACE WITH THERMOMETER;NERD FACE;THINKING FACE;FACE WITH HEAD-BANDAGE;ROBOT FACE;HUGGING FACE;
    SIGN OF THE HORNS;CALL ME HAND;RAISED BACK OF HAND;LEFT-FACING FIST;RIGHT-FACING FIST;
    HANDSHAKE;HAND WITH INDEX AND MIDDLE FINGERS CROSSED;I LOVE YOU HAND SIGN;FACE WITH COWBOY HAT;
    CLOWN FACE;NAUSEATED FACE;ROLLING ON THE FLOOR LAUGHING;DROOLING FACE;LYING FACE;FACE PALM;
    SNEEZING FACE;FACE WITH ONE EYEBROW RAISED/1F929 GRINNING FACE WITH *:STAR EYES;
    ONE LARGE AND ONE SMALL EYE/1F92B:FACE WITH FINGER COVERING CLOSED LIPS;
    SERIOUS FACE WITH SYMBOLS COVERING MOUTH;
    SMILING FACE WITH SMILING EYES AND HAND COVERING MOUTH;FACE WITH OPEN MOUTH VOMITING;
    SHOCKED FACE WITH EXPLODING HEAD;PREGNANT WOMAN;BREAST-FEEDING;PALMS UP TOGETHER;SELFIE;PRINCE;
    MAN IN TUXEDO;MOTHER CHRISTMAS;SHRUG;PERSON DOING CARTWHEEL;JUGGLING;FENCER;MODERN PENTATHLON;
    WRESTLERS;WATER POLO;HANDBALL;DIVING MASK;WILTED FLOWER;DRUM WITH DRUMSTICKS;CLINKING GLASSES;
    TUMBLER GLASS;SPOON;GOAL NET;RIFLE/1F947 * PLACE MEDAL:FIRST;SECOND;THIRD/1F94A:BOXING GLOVE;
    MARTIAL ARTS UNIFORM;CURLING STONE;LACROSSE STICK AND BALL;SOFTBALL;FLYING DISC;CROISSANT;
    AVOCADO;CUCUMBER;BACON;POTATO;CARROT;BAGUETTE BREAD;GREEN SALAD;SHALLOW PAN OF FOOD;
    STUFFED FLATBREAD;EGG;GLASS OF MILK;PEANUTS;KIWIFRUIT;PANCAKES;DUMPLING;FORTUNE COOKIE;
    TAKEOUT BOX;CHOPSTICKS;BOWL WITH SPOON;CUP WITH STRAW;COCONUT;BROCCOLI;PIE;PRETZEL;CUT OF MEAT;
    SANDWICH;CANNED FOOD;LEAFY GREEN;MANGO;MOON CAKE;BAGEL;
    SMILING FACE WITH SMILING EYES AND THREE HEARTS;YAWNING FACE;SMILING FACE WITH TEAR/
    1F973 FACE WITH *:PARTY HORN AND PARTY HAT;UNEVEN EYES AND WAVY MOUTH/1F975:OVERHEATED FACE;
    FREEZING FACE;NINJA;DISGUISED FACE;FACE HOLDING BACK TEARS;FACE WITH PLEADING EYES;SARI;
    LAB COAT;GOGGLES;HIKING BOOT;FLAT SHOE;CRAB;LION FACE;SCORPION;TURKEY;UNICORN FACE;EAGLE;DUCK;
    BAT;SHARK;OWL;FOX FACE;BUTTERFLY;DEER;GORILLA;LIZARD;RHINOCEROS;SHRIMP;SQUID;GIRAFFE FACE;
    ZEBRA FACE;HEDGEHOG;SAUROPOD;T-REX;CRICKET;KANGAROO;LLAMA;PEACOCK;HIPPOPOTAMUS;PARROT;RACCOON;
    LOBSTER;MOSQUITO;MICROBE;BADGER;SWAN;MAMMOTH;DODO;SLOTH;OTTER;ORANGUTAN;SKUNK;FLAMINGO;OYSTER;
    BEAVER;BISON;SEAL;GUIDE DOG;PROBING CANE/1F9B0 EMOJI COMPONENT *:RED HAIR;CURLY HAIR;BALD;
    WHITE HAIR/1F9B4:BONE;LEG;FOOT;TOOTH;SUPERHERO;SUPERVILLAIN;SAFETY VEST;EAR WITH HEARING AID;
    MOTORIZED WHEELCHAIR;MANUAL WHEELCHAIR;MECHANICAL ARM;MECHANICAL LEG;CHEESE WEDGE;CUPCAKE;
    SALT SHAKER;BEVERAGE BOX;GARLIC;ONION;FALAFEL;WAFFLE;BUTTER;MATE DRINK;ICE CUBE;BUBBLE TEA;
    TROLL;STANDING PERSON;KNEELING PERSON;DEAF PERSON;FACE WITH MONOCLE;ADULT;CHILD;OLDER ADULT;
    BEARDED PERSON/1F9D5 PERSON *:WITH HEADSCARF;IN STEAMY ROOM;CLIMBING;IN LOTUS POSITION/
    1F9D9:MAGE;FAIRY;VAMPIRE;MERPERSON;ELF;GENIE;ZOMBIE;BRAIN;ORANGE HEART;BILLED CAP;SCARF;GLOVES;
    COAT;SOCKS;RED GIFT ENVELOPE;FIRECRACKER;JIGSAW PUZZLE PIECE;TEST TUBE;PETRI DISH;
    DNA DOUBLE HELIX;COMPASS;ABACUS;FIRE EXTINGUISHER;TOOLBOX;BRICK;MAGNET;LUGGAGE;LOTION BOTTLE;
    SPOOL OF THREAD;BALL OF YARN;SAFETY PIN;TEDDY BEAR;BROOM;BASKET;ROLL OF PAPER;BAR OF SOAP;
    SPONGE;RECEIPT;NAZAR AMULET/1FA00 NEUTRAL CHESS *:KING;QUEEN;ROOK;BISHOP;KNIGHT;PAWN/
    1FA06 * CHESS KNIGHT ROTATED FORTY-FIVE DEGREES:WHITE;BLACK;NEUTRAL/
    1FA09 WHITE CHESS * ROTATED NINETY DEGREES:KING;QUEEN;ROOK;BISHOP;KNIGHT;PAWN/
    1FA0F BLACK CHESS * ROTATED NINETY DEGREES:KING;QUEEN;ROOK;BISHOP;KNIGHT;PAWN/
    1FA15 NEUTRAL CHESS * ROTATED NINETY DEGREES:KING;QUEEN;ROOK;BISHOP;KNIGHT;PAWN/
    1FA1B * CHESS KNIGHT ROTATED ONE HUNDRED THIRTY-FIVE DEGREES:WHITE;BLACK;NEUTRAL/
    1FA1E WHITE CHESS TURNED *:KING;QUEEN;ROOK;BISHOP;KNIGHT;PAWN/1FA24 BLACK CHESS TURNED *:KING;
    QUEEN;ROOK;BISHOP;KNIGHT;PAWN/1FA2A NEUTRAL CHESS TURNED *:KING;QUEEN;ROOK;BISHOP;KNIGHT;PAWN/
    1FA30 * CHESS KNIGHT ROTATED TWO HUNDRED TWENTY-FIVE DEGREES:WHITE;BLACK;NEUTRAL/
    1FA33 WHITE CHESS * ROTATED TWO HUNDRED SEVENTY DEGREES:KING;QUEEN;ROOK;BISHOP;KNIGHT;PAWN/
    1FA39 BLACK CHESS * ROTATED TWO HUNDRED SEVENTY DEGREES:KING;QUEEN;ROOK;BISHOP;KNIGHT;PAWN/
    1FA3F NEUTRAL CHESS * ROTATED TWO HUNDRED SEVENTY DEGREES:KING;QUEEN;ROOK;BISHOP;KNIGHT;PAWN/
    1FA45 WHITE CHESS *|BLACK CHESS *|NEUTRAL CHESS *:KNIGHT ROTATED THREE HUNDRED FIFTEEN DEGREES;
    EQUIHOPPER;EQUIHOPPER ROTATED NINETY DEGREES/1FA4E * CHESS KNIGHT-QUEEN|* CHESS KNIGHT-ROOK|
    * CHESS KNIGHT-BISHOP:WHITE;BLACK/1FA60 XIANGQI RED *:GENERAL;MANDARIN;ELEPHANT;HORSE;CHARIOT;
    CANNON;SOLDIER/1FA67 XIANGQI BLACK *:GENERAL;MANDARIN;ELEPHANT;HORSE;CHARIOT;CANNON;SOLDIER/
    1FA70:BALLET SHOES;ONE-PIECE SWIMSUIT;BRIEFS;SHORTS;THONG SANDAL/1FA78:DROP OF BLOOD;
    ADHESIVE BANDAGE;STETHOSCOPE;X-RAY;CRUTCH/1FA80:YO-YO;KITE;PARACHUTE;BOOMERANG;MAGIC WAND;
    PINATA;NESTING DOLLS/1FA90:RINGED PLANET;CHAIR;RAZOR;AXE;DIYA LAMP;BANJO;MILITARY HELMET;
    ACCORDION;LONG DRUM;COIN;CARPENTRY SAW;SCREWDRIVER;LADDER;HOOK;MIRROR;WINDOW;PLUNGER;
    SEWING NEEDLE;KNOT;BUCKET;MOUSE TRAP;TOOTHBRUSH;HEADSTONE;PLACARD;ROCK;MIRROR BALL;
    IDENTIFICATION CARD;LOW BATTERY;HAMSA/1FAB0:FLY;WORM;BEETLE;COCKROACH;POTTED PLANT;WOOD;
    FEATHER;LOTUS;CORAL;EMPTY NEST;NEST WITH EGGS/1FAC0:ANATOMICAL HEART;LUNGS;PEOPLE HUGGING;
    PREGNANT MAN;PREGNANT PERSON;PERSON WITH CROWN/1FAD0:BLUEBERRIES;BELL PEPPER;OLIVE;FLATBREAD;
    TAMALE;FONDUE;TEAPOT;POURING LIQUID;BEANS;JAR/1FAE0 * FACE:MELTING;SALUTING/1FAE2 FACE WITH *:
    OPEN EYES AND HAND OVER MOUTH;PEEKING EYE;DIAGONAL MOUTH/1FAE5:DOTTED LINE FACE;BITING LIP;
    BUBBLES/1FAF0:HAND WITH INDEX FINGER AND THUMB CROSSED;RIGHTWARDS HAND;LEFTWARDS HAND;
    PALM DOWN HAND;PALM UP HAND;INDEX POINTING AT THE VIEWER;HEART HANDS/1FB00 BLOCK SEXTANT-*:1;2;
    12;3;13;23;123;4;14;24;124;34;134;234;1234;5;15;25;125;35;235;1235;45;145;245;1245;345;1345;
    2345;12345;6;16;26;126;36;136;236;1236;46;146;1246;346;1346;2346;12346;56;156;256;1256;356;
    1356;2356;12356;456;1456;2456;12456;3456;13456;23456/
    1FB3C LOWER LEFT BLOCK DIAGONAL * MIDDLE LEFT TO LOWER CENTRE|
    LOWER LEFT BLOCK DIAGONAL * MIDDLE LEFT TO LOWER RIGHT:LOWER;UPPER/
    1FB40:LOWER LEFT BLOCK DIAGONAL UPPER LEFT TO LOWER CENTRE/
    1FB41 LOWER RIGHT BLOCK DIAGONAL UPPER MIDDLE LEFT TO UPPER *:CENTRE;RIGHT/
    1FB43 LOWER RIGHT BLOCK DIAGONAL LOWER *:MIDDLE LEFT TO UPPER CENTRE;
    MIDDLE LEFT TO UPPER RIGHT;LEFT TO UPPER CENTRE;MIDDLE LEFT TO UPPER MIDDLE RIGHT;
    CENTRE TO LOWER MIDDLE RIGHT;LEFT TO LOWER MIDDLE RIGHT;CENTRE TO UPPER MIDDLE RIGHT;
    LEFT TO UPPER MIDDLE RIGHT;CENTRE TO UPPER RIGHT/1FB4C LOWER LEFT BLOCK DIAGONAL UPPER * RIGHT:
    CENTRE TO UPPER MIDDLE;LEFT TO UPPER MIDDLE;CENTRE TO LOWER MIDDLE;LEFT TO LOWER MIDDLE;
    CENTRE TO LOWER;MIDDLE LEFT TO LOWER MIDDLE/
    1FB52 UPPER RIGHT BLOCK DIAGONAL LOWER MIDDLE LEFT TO LOWER *:CENTRE;RIGHT/
    1FB54 UPPER RIGHT BLOCK DIAGONAL UPPER *:MIDDLE LEFT TO LOWER CENTRE;
    MIDDLE LEFT TO LOWER RIGHT;LEFT TO LOWER CENTRE/
    1FB57 UPPER LEFT BLOCK DIAGONAL UPPER MIDDLE LEFT TO UPPER *:CENTRE;RIGHT/
    1FB59 UPPER LEFT BLOCK DIAGONAL LOWER *:MIDDLE LEFT TO UPPER CENTRE;MIDDLE LEFT TO UPPER RIGHT;
    LEFT TO UPPER CENTRE;MIDDLE LEFT TO UPPER MIDDLE RIGHT;CENTRE TO LOWER MIDDLE RIGHT;
    LEFT TO LOWER MIDDLE RIGHT;CENTRE TO UPPER MIDDLE RIGHT;LEFT TO UPPER MIDDLE RIGHT;
    CENTRE TO UPPER RIGHT/1FB62 UPPER RIGHT BLOCK DIAGONAL UPPER * RIGHT:CENTRE TO UPPER MIDDLE;
    LEFT TO UPPER MIDDLE;CENTRE TO LOWER MIDDLE;LEFT TO LOWER MIDDLE;CENTRE TO LOWER;
    MIDDLE LEFT TO LOWER MIDDLE/1FB68 * TRIANGULAR THREE QUARTERS BLOCK:UPPER AND RIGHT AND LOWER;
    LEFT AND LOWER AND RIGHT;UPPER AND LEFT AND LOWER;LEFT AND UPPER AND RIGHT/
    1FB6C * TRIANGULAR ONE QUARTER BLOCK:LEFT;UPPER;RIGHT;LOWER/1FB70 VERTICAL ONE EIGHTH BLOCK-*:
    2;3;4;5;6;7/1FB76 HORIZONTAL ONE EIGHTH BLOCK-*:2;3;4;5;6;7/1FB7C * ONE EIGHTH BLOCK:
    LEFT AND LOWER;LEFT AND UPPER;RIGHT AND UPPER;RIGHT AND LOWER;UPPER AND LOWER/
    1FB81:HORIZONTAL ONE EIGHTH BLOCK-1358/1FB82 UPPER * BLOCK:ONE QUARTER;THREE EIGHTHS;
    FIVE EIGHTHS;THREE QUARTERS;SEVEN EIGHTHS/1FB87 RIGHT * BLOCK:ONE QUARTER;THREE EIGHTHS;
    FIVE EIGHTHS;THREE QUARTERS;SEVEN EIGHTHS/1FB8C * MEDIUM SHADE:LEFT HALF;RIGHT HALF;UPPER HALF;
    LOWER HALF;INVERSE;UPPER HALF BLOCK AND LOWER HALF INVERSE/
    1FB92:UPPER HALF INVERSE MEDIUM SHADE AND LOWER HALF BLOCK/
    1FB94:LEFT HALF INVERSE MEDIUM SHADE AND RIGHT HALF BLOCK/1FB95 * FILL:CHECKER BOARD;
    INVERSE CHECKER BOARD;HEAVY HORIZONTAL;UPPER LEFT TO LOWER RIGHT;UPPER RIGHT TO LOWER LEFT/
    1FB9A * TRIANGULAR HALF BLOCK:UPPER AND LOWER;LEFT AND RIGHT/1FB9C * TRIANGULAR MEDIUM SHADE:
    UPPER LEFT;UPPER RIGHT;LOWER RIGHT;LOWER LEFT/
    1FBA0 BOX DRAWINGS LIGHT DIAGONAL UPPER CENTRE TO MIDDLE *:LEFT;RIGHT/
    1FBA2 BOX DRAWINGS LIGHT DIAGONAL * TO LOWER CENTRE:MIDDLE LEFT;MIDDLE RIGHT;
    UPPER CENTRE TO MIDDLE LEFT;UPPER CENTRE TO MIDDLE RIGHT/
    1FBA6 BOX DRAWINGS LIGHT DIAGONAL MIDDLE LEFT TO * CENTRE TO MIDDLE RIGHT:LOWER;UPPER/
    1FBA8 BOX DRAWINGS LIGHT DIAGONAL UPPER CENTRE TO MIDDLE *:
    LEFT AND MIDDLE RIGHT TO LOWER CENTRE;RIGHT AND MIDDLE LEFT TO LOWER CENTRE;
    RIGHT TO LOWER CENTRE TO MIDDLE LEFT;LEFT TO LOWER CENTRE TO MIDDLE RIGHT/
    1FBAC BOX DRAWINGS LIGHT DIAGONAL MIDDLE * TO LOWER CENTRE:
    LEFT TO UPPER CENTRE TO MIDDLE RIGHT;RIGHT TO UPPER CENTRE TO MIDDLE LEFT/
    1FBAE BOX DRAWINGS LIGHT *:DIAGONAL DIAMOND;HORIZONTAL WITH VERTICAL STROKE/
    1FBB0:ARROWHEAD-SHAPED POINTER;INVERSE CHECK MARK;LEFT HALF RUNNING MAN;RIGHT HALF RUNNING MAN;
    INVERSE DOWNWARDS ARROW WITH TIP LEFTWARDS/1FBB5 * ARROW AND UPPER AND LOWER ONE EIGHTH BLOCK:
    LEFTWARDS;RIGHTWARDS/1FBB7 * ARROW AND RIGHT ONE EIGHTH BLOCK:DOWNWARDS;UPWARDS/
    1FBB9 * HALF FOLDER:LEFT;RIGHT/1FBBB:VOIDED GREEK CROSS;RIGHT OPEN SQUARED DOT/
    1FBBD NEGATIVE DIAGONAL *:CROSS;MIDDLE RIGHT TO LOWER CENTRE;DIAMOND/
    1FBC0:WHITE HEAVY SALTIRE WITH ROUNDED CORNERS/1FBC1 * THIRD WHITE RIGHT POINTING INDEX:LEFT;
    MIDDLE;RIGHT/1FBC4:NEGATIVE SQUARED QUESTION MARK;STICK FIGURE/1FBC6 STICK FIGURE *:
    WITH ARMS RAISED;LEANING LEFT;LEANING RIGHT;WITH DRESS/1FBCA:WHITE UP-POINTING CHEVRON/
    1FBF0 SEGMENTED DIGIT *:ZERO;ONE;TWO;THREE;FOUR;FIVE;SIX;SEVEN;EIGHT;NINE/E0001:LANGUAGE TAG/
    E0020 TAG *:SPACE;EXCLAMATION MARK;QUOTATION MARK;NUMBER SIGN;DOLLAR SIGN;PERCENT SIGN;
    AMPERSAND;APOSTROPHE;LEFT PARENTHESIS;RIGHT PARENTHESIS;ASTERISK;PLUS SIGN;COMMA;HYPHEN-MINUS;
    FULL STOP;SOLIDUS/E0030 TAG DIGIT *:ZERO;ONE;TWO;THREE;FOUR;FIVE;SIX;SEVEN;EIGHT;NINE/
    E003A TAG *:COLON;SEMICOLON;LESS-THAN SIGN;EQUALS SIGN;GREATER-THAN SIGN;QUESTION MARK;
    COMMERCIAL AT/E0041 TAG LATIN CAPITAL LETTER *:A;B;C;D;E;F;G;H;I;J;K;L;M;N;O;P;Q;R;S;T;U;V;W;X;
    Y;Z/E005B TAG *:LEFT SQUARE BRACKET;REVERSE SOLIDUS;RIGHT SQUARE BRACKET;CIRCUMFLEX ACCENT;
    LOW LINE;GRAVE ACCENT/E0061 TAG LATIN SMALL LETTER *:A;B;C;D;E;F;G;H;I;J;K;L;M;N;O;P;Q;R;S;T;U;
    V;W;X;Y;Z/E007B TAG *:LEFT CURLY BRACKET;VERTICAL LINE;RIGHT CURLY BRACKET;TILDE/
    E007F:CANCEL TAG/E0100 VARIATION SELECTOR-*:17;18;19;20;21;22;23;24;25;26;27;28;29;30;31;32;33;
    34;35;36;37;38;39;40;41;42;43;44;45;46;47;48;49;50;51;52;53;54;55;56;57;58;59;60;61;62;63;64;
    65;66;67;68;69;70;71;72;73;74;75;76;77;78;79;80;81;82;83;84;85;86;87;88;89;90;91;92;93;94;95;
    96;97;98;99;100;101;102;103;104;105;106;107;108;109;110;111;112;113;114;115;116;117;118;119;
    120;121;122;123;124;125;126;127;128;129;130;131;132;133;134;135;136;137;138;139;140;141;142;
    143;144;145;146;147;148;149;150;151;152;153;154;155;156;157;158;159;160;161;162;163;164;165;
    166;167;168;169;170;171;172;173;174;175;176;177;178;179;180;181;182;183;184;185;186;187;188;
    189;190;191;192;193;194;195;196;197;198;199;200;201;202;203;204;205;206;207;208;209;210;211;
    212;213;214;215;216;217;218;219;220;221;222;223;224;225;226;227;228;229;230;231;232;233;234;
    235;236;237;238;239;240;241;242;243;244;245;246;247;248;249;250;251;252;253;254;255;256"

end DocSuite.Text
