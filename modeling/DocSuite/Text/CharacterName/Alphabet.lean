/-!
The names of letters of alphabets and their marks.
-/
namespace DocSuite.Text

def alphabetNames : String :=
  "20:SPACE;EXCLAMATION MARK;QUOTATION MARK;NUMBER SIGN;DOLLAR SIGN;PERCENT SIGN;AMPERSAND;
    APOSTROPHE;LEFT PARENTHESIS;RIGHT PARENTHESIS;ASTERISK;PLUS SIGN;COMMA;HYPHEN-MINUS;FULL STOP;
    SOLIDUS/30 DIGIT *:ZERO;ONE;TWO;THREE;FOUR;FIVE;SIX;SEVEN;EIGHT;NINE/3A:COLON;SEMICOLON;
    LESS-THAN SIGN;EQUALS SIGN;GREATER-THAN SIGN;QUESTION MARK;COMMERCIAL AT/
    41 LATIN CAPITAL LETTER *:A;B;C;D;E;F;G;H;I;J;K;L;M;N;O;P;Q;R;S;T;U;V;W;X;Y;Z/
    5B:LEFT SQUARE BRACKET;REVERSE SOLIDUS;RIGHT SQUARE BRACKET;CIRCUMFLEX ACCENT;LOW LINE;
    GRAVE ACCENT/61 LATIN SMALL LETTER *:A;B;C;D;E;F;G;H;I;J;K;L;M;N;O;P;Q;R;S;T;U;V;W;X;Y;Z/
    7B:LEFT CURLY BRACKET;VERTICAL LINE;RIGHT CURLY BRACKET;TILDE/A0:NO-BREAK SPACE;
    INVERTED EXCLAMATION MARK;CENT SIGN;POUND SIGN;CURRENCY SIGN;YEN SIGN;BROKEN BAR;SECTION SIGN;
    DIAERESIS;COPYRIGHT SIGN;FEMININE ORDINAL INDICATOR;LEFT-POINTING DOUBLE ANGLE QUOTATION MARK;
    NOT SIGN;SOFT HYPHEN;REGISTERED SIGN;MACRON;DEGREE SIGN;PLUS-MINUS SIGN;SUPERSCRIPT TWO;
    SUPERSCRIPT THREE;ACUTE ACCENT;MICRO SIGN;PILCROW SIGN;MIDDLE DOT;CEDILLA;SUPERSCRIPT ONE;
    MASCULINE ORDINAL INDICATOR;RIGHT-POINTING DOUBLE ANGLE QUOTATION MARK/BC VULGAR FRACTION *:
    ONE QUARTER;ONE HALF;THREE QUARTERS/BF:INVERTED QUESTION MARK/C0 LATIN CAPITAL LETTER A WITH *:
    GRAVE;ACUTE;CIRCUMFLEX;TILDE;DIAERESIS;RING ABOVE/C6 LATIN CAPITAL LETTER *:AE;C WITH CEDILLA;
    E WITH GRAVE;E WITH ACUTE;E WITH CIRCUMFLEX;E WITH DIAERESIS;I WITH GRAVE;I WITH ACUTE;
    I WITH CIRCUMFLEX;I WITH DIAERESIS;ETH;N WITH TILDE;O WITH GRAVE;O WITH ACUTE;
    O WITH CIRCUMFLEX;O WITH TILDE;O WITH DIAERESIS/D7:MULTIPLICATION SIGN/
    D8 LATIN CAPITAL LETTER *:O WITH STROKE;U WITH GRAVE;U WITH ACUTE;U WITH CIRCUMFLEX;
    U WITH DIAERESIS;Y WITH ACUTE;THORN/DF LATIN SMALL LETTER *:SHARP S;A WITH GRAVE;A WITH ACUTE;
    A WITH CIRCUMFLEX;A WITH TILDE;A WITH DIAERESIS;A WITH RING ABOVE;AE;C WITH CEDILLA;
    E WITH GRAVE;E WITH ACUTE;E WITH CIRCUMFLEX;E WITH DIAERESIS;I WITH GRAVE;I WITH ACUTE;
    I WITH CIRCUMFLEX;I WITH DIAERESIS;ETH;N WITH TILDE;O WITH GRAVE;O WITH ACUTE;
    O WITH CIRCUMFLEX;O WITH TILDE;O WITH DIAERESIS/F7:DIVISION SIGN/F8 LATIN SMALL LETTER *:
    O WITH STROKE;U WITH GRAVE;U WITH ACUTE;U WITH CIRCUMFLEX;U WITH DIAERESIS;Y WITH ACUTE;THORN;
    Y WITH DIAERESIS/100 LATIN CAPITAL LETTER *|LATIN SMALL LETTER *:A WITH MACRON;A WITH BREVE;
    A WITH OGONEK;C WITH ACUTE;C WITH CIRCUMFLEX;C WITH DOT ABOVE;C WITH CARON;D WITH CARON;
    D WITH STROKE;E WITH MACRON;E WITH BREVE;E WITH DOT ABOVE;E WITH OGONEK;E WITH CARON;
    G WITH CIRCUMFLEX;G WITH BREVE;G WITH DOT ABOVE;G WITH CEDILLA;H WITH CIRCUMFLEX;H WITH STROKE;
    I WITH TILDE;I WITH MACRON;I WITH BREVE;I WITH OGONEK/130 LATIN *:
    CAPITAL LETTER I WITH DOT ABOVE;SMALL LETTER DOTLESS I/132 LATIN CAPITAL *|LATIN SMALL *:
    LIGATURE IJ;LETTER J WITH CIRCUMFLEX;LETTER K WITH CEDILLA/138:LATIN SMALL LETTER KRA/
    139 LATIN CAPITAL LETTER *|LATIN SMALL LETTER *:L WITH ACUTE;L WITH CEDILLA;L WITH CARON;
    L WITH MIDDLE DOT;L WITH STROKE;N WITH ACUTE;N WITH CEDILLA;N WITH CARON/
    149:LATIN SMALL LETTER N PRECEDED BY APOSTROPHE/14A LATIN CAPITAL *|LATIN SMALL *:LETTER ENG;
    LETTER O WITH MACRON;LETTER O WITH BREVE;LETTER O WITH DOUBLE ACUTE;LIGATURE OE/
    154 LATIN CAPITAL LETTER *|LATIN SMALL LETTER *:R WITH ACUTE;R WITH CEDILLA;R WITH CARON;
    S WITH ACUTE;S WITH CIRCUMFLEX;S WITH CEDILLA;S WITH CARON;T WITH CEDILLA;T WITH CARON;
    T WITH STROKE;U WITH TILDE;U WITH MACRON;U WITH BREVE;U WITH RING ABOVE;U WITH DOUBLE ACUTE;
    U WITH OGONEK;W WITH CIRCUMFLEX;Y WITH CIRCUMFLEX/178:LATIN CAPITAL LETTER Y WITH DIAERESIS/
    179 LATIN CAPITAL LETTER Z WITH *|LATIN SMALL LETTER Z WITH *:ACUTE;DOT ABOVE;CARON/
    17F LATIN *:SMALL LETTER LONG S;SMALL LETTER B WITH STROKE;CAPITAL LETTER B WITH HOOK/
    182 LATIN CAPITAL LETTER *|LATIN SMALL LETTER *:B WITH TOPBAR;TONE SIX/
    186:LATIN CAPITAL LETTER OPEN O/187 LATIN * LETTER C WITH HOOK:CAPITAL;SMALL/
    189 LATIN CAPITAL LETTER *:AFRICAN D;D WITH HOOK;D WITH TOPBAR/18C LATIN SMALL LETTER *:
    D WITH TOPBAR;TURNED DELTA/18E LATIN CAPITAL LETTER *:REVERSED E;SCHWA;OPEN E;F WITH HOOK/
    192 LATIN *:SMALL LETTER F WITH HOOK;CAPITAL LETTER G WITH HOOK;CAPITAL LETTER GAMMA;
    SMALL LETTER HV/196 LATIN CAPITAL LETTER *:IOTA;I WITH STROKE;K WITH HOOK/
    199 LATIN SMALL LETTER *:K WITH HOOK;L WITH BAR;LAMBDA WITH STROKE/19C LATIN *:
    CAPITAL LETTER TURNED M;CAPITAL LETTER N WITH LEFT HOOK;SMALL LETTER N WITH LONG RIGHT LEG;
    CAPITAL LETTER O WITH MIDDLE TILDE/1A0 LATIN CAPITAL LETTER *|LATIN SMALL LETTER *:O WITH HORN;
    OI;P WITH HOOK/1A6 LATIN *:LETTER YR;CAPITAL LETTER TONE TWO;SMALL LETTER TONE TWO;
    CAPITAL LETTER ESH;LETTER REVERSED ESH LOOP;SMALL LETTER T WITH PALATAL HOOK;
    CAPITAL LETTER T WITH HOOK;SMALL LETTER T WITH HOOK;CAPITAL LETTER T WITH RETROFLEX HOOK/
    1AF LATIN * LETTER U WITH HORN:CAPITAL;SMALL/1B1 LATIN CAPITAL LETTER *:UPSILON;V WITH HOOK/
    1B3 LATIN CAPITAL LETTER *|LATIN SMALL LETTER *:Y WITH HOOK;Z WITH STROKE/
    1B7 LATIN CAPITAL LETTER *:EZH;EZH REVERSED/1B9 LATIN SMALL LETTER EZH *:REVERSED;WITH TAIL/
    1BB:LATIN LETTER TWO WITH STROKE/1BC LATIN * LETTER TONE FIVE:CAPITAL;SMALL/1BE LATIN LETTER *:
    INVERTED GLOTTAL STOP WITH STROKE;WYNN;DENTAL CLICK;LATERAL CLICK;ALVEOLAR CLICK;
    RETROFLEX CLICK/1C4 LATIN CAPITAL LETTER * WITH CARON:DZ;D WITH SMALL LETTER Z/1C6 LATIN *:
    SMALL LETTER DZ WITH CARON;CAPITAL LETTER LJ;CAPITAL LETTER L WITH SMALL LETTER J;
    SMALL LETTER LJ;CAPITAL LETTER NJ;CAPITAL LETTER N WITH SMALL LETTER J;SMALL LETTER NJ/
    1CD LATIN CAPITAL LETTER * WITH CARON|LATIN SMALL LETTER * WITH CARON:A;I;O;U/
    1D5 LATIN CAPITAL LETTER U WITH DIAERESIS AND *|LATIN SMALL LETTER U WITH DIAERESIS AND *:
    MACRON;ACUTE;CARON;GRAVE/1DD:LATIN SMALL LETTER TURNED E/1DE LATIN CAPITAL LETTER *|
    LATIN SMALL LETTER *:A WITH DIAERESIS AND MACRON;A WITH DOT ABOVE AND MACRON;AE WITH MACRON;
    G WITH STROKE;G WITH CARON;K WITH CARON;O WITH OGONEK;O WITH OGONEK AND MACRON;EZH WITH CARON/
    1F0 LATIN *:SMALL LETTER J WITH CARON;CAPITAL LETTER DZ;CAPITAL LETTER D WITH SMALL LETTER Z;
    SMALL LETTER DZ/1F4 LATIN * LETTER G WITH ACUTE:CAPITAL;SMALL/1F6 LATIN CAPITAL LETTER *:HWAIR;
    WYNN/1F8 LATIN CAPITAL LETTER *|LATIN SMALL LETTER *:N WITH GRAVE;A WITH RING ABOVE AND ACUTE;
    AE WITH ACUTE;O WITH STROKE AND ACUTE/200 LATIN CAPITAL LETTER * WITH DOUBLE GRAVE|
    LATIN SMALL LETTER * WITH DOUBLE GRAVE|LATIN CAPITAL LETTER * WITH INVERTED BREVE|
    LATIN SMALL LETTER * WITH INVERTED BREVE:A;E;I;O;R;U/218 LATIN CAPITAL LETTER *|
    LATIN SMALL LETTER *:S WITH COMMA BELOW;T WITH COMMA BELOW;YOGH;H WITH CARON/220 LATIN *:
    CAPITAL LETTER N WITH LONG RIGHT LEG;SMALL LETTER D WITH CURL/222 LATIN CAPITAL LETTER *|
    LATIN SMALL LETTER *:OU;Z WITH HOOK;A WITH DOT ABOVE;E WITH CEDILLA;
    O WITH DIAERESIS AND MACRON;O WITH TILDE AND MACRON;O WITH DOT ABOVE;
    O WITH DOT ABOVE AND MACRON;Y WITH MACRON/234 LATIN SMALL LETTER *:L WITH CURL;N WITH CURL;
    T WITH CURL;DOTLESS J;DB DIGRAPH;QP DIGRAPH/23A LATIN * WITH STROKE:CAPITAL LETTER A;
    CAPITAL LETTER C;SMALL LETTER C/23D LATIN CAPITAL LETTER *:L WITH BAR;T WITH DIAGONAL STROKE/
    23F LATIN SMALL LETTER * WITH SWASH TAIL:S;Z/241 LATIN * LETTER GLOTTAL STOP:CAPITAL;SMALL/
    243 LATIN CAPITAL LETTER *:B WITH STROKE;U BAR;TURNED V/246 LATIN CAPITAL LETTER * WITH STROKE|
    LATIN SMALL LETTER * WITH STROKE:E;J/24A LATIN * Q WITH HOOK TAIL:CAPITAL LETTER SMALL;
    SMALL LETTER/24C LATIN CAPITAL LETTER * WITH STROKE|LATIN SMALL LETTER * WITH STROKE:R;Y/
    250 LATIN SMALL LETTER *:TURNED A;ALPHA;TURNED ALPHA;B WITH HOOK;OPEN O;C WITH CURL;
    D WITH TAIL;D WITH HOOK;REVERSED E;SCHWA;SCHWA WITH HOOK;OPEN E;REVERSED OPEN E;
    REVERSED OPEN E WITH HOOK;CLOSED REVERSED OPEN E;DOTLESS J WITH STROKE;G WITH HOOK;SCRIPT G/
    262:LATIN LETTER SMALL CAPITAL G/263 LATIN SMALL LETTER *:GAMMA;RAMS HORN;TURNED H;H WITH HOOK;
    HENG WITH HOOK;I WITH STROKE;IOTA/26A:LATIN LETTER SMALL CAPITAL I/26B LATIN SMALL LETTER *:
    L WITH MIDDLE TILDE;L WITH BELT;L WITH RETROFLEX HOOK;LEZH;TURNED M;TURNED M WITH LONG LEG;
    M WITH HOOK;N WITH LEFT HOOK;N WITH RETROFLEX HOOK/274 LATIN *:LETTER SMALL CAPITAL N;
    SMALL LETTER BARRED O;LETTER SMALL CAPITAL OE/277 LATIN SMALL LETTER *:CLOSED OMEGA;PHI;
    TURNED R;TURNED R WITH LONG LEG;TURNED R WITH HOOK;R WITH LONG LEG;R WITH TAIL;R WITH FISHHOOK;
    REVERSED R WITH FISHHOOK/280 LATIN LETTER SMALL CAPITAL *:R;INVERTED R/
    282 LATIN SMALL LETTER *:S WITH HOOK;ESH;DOTLESS J WITH STROKE AND HOOK;SQUAT REVERSED ESH;
    ESH WITH CURL;TURNED T;T WITH RETROFLEX HOOK;U BAR;UPSILON;V WITH HOOK;TURNED V;TURNED W;
    TURNED Y/28F:LATIN LETTER SMALL CAPITAL Y/290 LATIN SMALL LETTER *:Z WITH RETROFLEX HOOK;
    Z WITH CURL;EZH;EZH WITH CURL/294 LATIN LETTER *:GLOTTAL STOP;PHARYNGEAL VOICED FRICATIVE;
    INVERTED GLOTTAL STOP;STRETCHED C;BILABIAL CLICK;SMALL CAPITAL B/29A LATIN *:
    SMALL LETTER CLOSED OPEN E;LETTER SMALL CAPITAL G WITH HOOK;LETTER SMALL CAPITAL H;
    SMALL LETTER J WITH CROSSED-TAIL;SMALL LETTER TURNED K;LETTER SMALL CAPITAL L;
    SMALL LETTER Q WITH HOOK/2A1 LATIN LETTER * STOP WITH STROKE:GLOTTAL;REVERSED GLOTTAL/
    2A3 LATIN SMALL LETTER *:DZ DIGRAPH;DEZH DIGRAPH;DZ DIGRAPH WITH CURL;TS DIGRAPH;TESH DIGRAPH;
    TC DIGRAPH WITH CURL;FENG DIGRAPH;LS DIGRAPH;LZ DIGRAPH/2AC LATIN LETTER * PERCUSSIVE:BILABIAL;
    BIDENTAL/2AE LATIN SMALL LETTER TURNED H WITH *:FISHHOOK;FISHHOOK AND TAIL/
    2B0 MODIFIER LETTER SMALL *:H;H WITH HOOK;J;R;TURNED R;TURNED R WITH HOOK;CAPITAL INVERTED R;W;
    Y/2B9 MODIFIER LETTER *:PRIME;DOUBLE PRIME;TURNED COMMA;APOSTROPHE;REVERSED COMMA;
    RIGHT HALF RING;LEFT HALF RING;GLOTTAL STOP;REVERSED GLOTTAL STOP;LEFT ARROWHEAD;
    RIGHT ARROWHEAD;UP ARROWHEAD;DOWN ARROWHEAD;CIRCUMFLEX ACCENT/2C7:CARON/2C8 MODIFIER LETTER *:
    VERTICAL LINE;MACRON;ACUTE ACCENT;GRAVE ACCENT;LOW VERTICAL LINE;LOW MACRON;LOW GRAVE ACCENT;
    LOW ACUTE ACCENT;TRIANGULAR COLON;HALF TRIANGULAR COLON;CENTRED RIGHT HALF RING;
    CENTRED LEFT HALF RING;UP TACK;DOWN TACK;PLUS SIGN;MINUS SIGN/2D8:BREVE;DOT ABOVE;RING ABOVE;
    OGONEK;SMALL TILDE;DOUBLE ACUTE ACCENT/2DE MODIFIER LETTER *:RHOTIC HOOK;CROSS ACCENT;
    SMALL GAMMA;SMALL L;SMALL S;SMALL X;SMALL REVERSED GLOTTAL STOP;EXTRA-HIGH TONE BAR;
    HIGH TONE BAR;MID TONE BAR;LOW TONE BAR;EXTRA-LOW TONE BAR;YIN DEPARTING TONE MARK;
    YANG DEPARTING TONE MARK;VOICING;UNASPIRATED;DOUBLE APOSTROPHE;LOW DOWN ARROWHEAD;
    LOW UP ARROWHEAD;LOW LEFT ARROWHEAD;LOW RIGHT ARROWHEAD;LOW RING;MIDDLE GRAVE ACCENT;
    MIDDLE DOUBLE GRAVE ACCENT;MIDDLE DOUBLE ACUTE ACCENT;LOW TILDE;RAISED COLON;BEGIN HIGH TONE;
    END HIGH TONE;BEGIN LOW TONE;END LOW TONE;SHELF;OPEN SHELF;LOW LEFT ARROW/300 COMBINING *:
    GRAVE ACCENT;ACUTE ACCENT;CIRCUMFLEX ACCENT;TILDE;MACRON;OVERLINE;BREVE;DOT ABOVE;DIAERESIS;
    HOOK ABOVE;RING ABOVE;DOUBLE ACUTE ACCENT;CARON;VERTICAL LINE ABOVE;DOUBLE VERTICAL LINE ABOVE;
    DOUBLE GRAVE ACCENT;CANDRABINDU;INVERTED BREVE;TURNED COMMA ABOVE;COMMA ABOVE;
    REVERSED COMMA ABOVE;COMMA ABOVE RIGHT;GRAVE ACCENT BELOW;ACUTE ACCENT BELOW;LEFT TACK BELOW;
    RIGHT TACK BELOW;LEFT ANGLE ABOVE;HORN/31C COMBINING * BELOW:LEFT HALF RING;UP TACK;DOWN TACK;
    PLUS SIGN;MINUS SIGN;PALATALIZED HOOK;RETROFLEX HOOK;DOT;DIAERESIS;RING;COMMA/327 COMBINING *:
    CEDILLA;OGONEK/329 COMBINING * BELOW:VERTICAL LINE;BRIDGE;INVERTED DOUBLE ARCH;CARON;
    CIRCUMFLEX ACCENT;BREVE;INVERTED BREVE;TILDE;MACRON/332 COMBINING *:LOW LINE;DOUBLE LOW LINE;
    TILDE OVERLAY;SHORT STROKE OVERLAY;LONG STROKE OVERLAY;SHORT SOLIDUS OVERLAY;
    LONG SOLIDUS OVERLAY;RIGHT HALF RING BELOW;INVERTED BRIDGE BELOW;SQUARE BELOW;SEAGULL BELOW;
    X ABOVE;VERTICAL TILDE;DOUBLE OVERLINE;GRAVE TONE MARK;ACUTE TONE MARK;GREEK PERISPOMENI;
    GREEK KORONIS;GREEK DIALYTIKA TONOS;GREEK YPOGEGRAMMENI;BRIDGE ABOVE;EQUALS SIGN BELOW;
    DOUBLE VERTICAL LINE BELOW;LEFT ANGLE BELOW;NOT TILDE ABOVE;HOMOTHETIC ABOVE;
    ALMOST EQUAL TO ABOVE;LEFT RIGHT ARROW BELOW;UPWARDS ARROW BELOW;GRAPHEME JOINER;
    RIGHT ARROWHEAD ABOVE;LEFT HALF RING ABOVE;FERMATA;X BELOW;LEFT ARROWHEAD BELOW;
    RIGHT ARROWHEAD BELOW;RIGHT ARROWHEAD AND UP ARROWHEAD BELOW;RIGHT HALF RING ABOVE;
    DOT ABOVE RIGHT;ASTERISK BELOW;DOUBLE RING BELOW;ZIGZAG ABOVE/35C COMBINING DOUBLE *:
    BREVE BELOW;BREVE;MACRON;MACRON BELOW;TILDE;INVERTED BREVE;RIGHTWARDS ARROW BELOW/
    363 COMBINING LATIN SMALL LETTER *:A;E;I;O;U;C;D;H;M;R;T;V;X/370 GREEK CAPITAL LETTER *|
    GREEK SMALL LETTER *:HETA;ARCHAIC SAMPI/374 GREEK * SIGN:NUMERAL;LOWER NUMERAL/
    376 GREEK * LETTER PAMPHYLIAN DIGAMMA:CAPITAL;SMALL/37A:GREEK YPOGEGRAMMENI/
    37B GREEK SMALL * LUNATE SIGMA SYMBOL:REVERSED;DOTTED;REVERSED DOTTED/37E GREEK *:
    QUESTION MARK;CAPITAL LETTER YOT/384 GREEK *:TONOS;DIALYTIKA TONOS;
    CAPITAL LETTER ALPHA WITH TONOS;ANO TELEIA/388 GREEK CAPITAL LETTER * WITH TONOS:EPSILON;ETA;
    IOTA/38C:GREEK CAPITAL LETTER OMICRON WITH TONOS/38E GREEK CAPITAL LETTER * WITH TONOS:UPSILON;
    OMEGA/390:GREEK SMALL LETTER IOTA WITH DIALYTIKA AND TONOS/391 GREEK CAPITAL LETTER *:ALPHA;
    BETA;GAMMA;DELTA;EPSILON;ZETA;ETA;THETA;IOTA;KAPPA;LAMDA;MU;NU;XI;OMICRON;PI;RHO/
    3A3 GREEK CAPITAL LETTER *:SIGMA;TAU;UPSILON;PHI;CHI;PSI;OMEGA;IOTA WITH DIALYTIKA;
    UPSILON WITH DIALYTIKA/3AC GREEK SMALL LETTER * WITH TONOS:ALPHA;EPSILON;ETA;IOTA/
    3B0 GREEK SMALL LETTER *:UPSILON WITH DIALYTIKA AND TONOS;ALPHA;BETA;GAMMA;DELTA;EPSILON;ZETA;
    ETA;THETA;IOTA;KAPPA;LAMDA;MU;NU;XI;OMICRON;PI;RHO;FINAL SIGMA;SIGMA;TAU;UPSILON;PHI;CHI;PSI;
    OMEGA;IOTA WITH DIALYTIKA;UPSILON WITH DIALYTIKA;OMICRON WITH TONOS;UPSILON WITH TONOS;
    OMEGA WITH TONOS/3CF GREEK * SYMBOL:CAPITAL KAI;BETA;THETA;UPSILON WITH HOOK;
    UPSILON WITH ACUTE AND HOOK;UPSILON WITH DIAERESIS AND HOOK;PHI;PI;KAI/3D8 GREEK LETTER *|
    GREEK SMALL LETTER *:ARCHAIC KOPPA;STIGMA;DIGAMMA;KOPPA;SAMPI/3E2 COPTIC CAPITAL LETTER *|
    COPTIC SMALL LETTER *:SHEI;FEI;KHEI;HORI;GANGIA;SHIMA;DEI/3F0 GREEK *:KAPPA SYMBOL;RHO SYMBOL;
    LUNATE SIGMA SYMBOL;LETTER YOT;CAPITAL THETA SYMBOL;LUNATE EPSILON SYMBOL;
    REVERSED LUNATE EPSILON SYMBOL;CAPITAL LETTER SHO;SMALL LETTER SHO;CAPITAL LUNATE SIGMA SYMBOL;
    CAPITAL LETTER SAN;SMALL LETTER SAN;RHO WITH STROKE SYMBOL/
    3FD GREEK CAPITAL * LUNATE SIGMA SYMBOL:REVERSED;DOTTED;REVERSED DOTTED/
    400 CYRILLIC CAPITAL LETTER *:IE WITH GRAVE;IO;DJE;GJE;UKRAINIAN IE;DZE;
    BYELORUSSIAN-UKRAINIAN I;YI;JE;LJE;NJE;TSHE;KJE;I WITH GRAVE;SHORT U;DZHE;A;BE;VE;GHE;DE;IE;
    ZHE;ZE;I;SHORT I;KA;EL;EM;EN;O;PE;ER;ES;TE;U;EF;HA;TSE;CHE;SHA;SHCHA;HARD SIGN;YERU;SOFT SIGN;
    E;YU;YA/430 CYRILLIC SMALL LETTER *:A;BE;VE;GHE;DE;IE;ZHE;ZE;I;SHORT I;KA;EL;EM;EN;O;PE;ER;ES;
    TE;U;EF;HA;TSE;CHE;SHA;SHCHA;HARD SIGN;YERU;SOFT SIGN;E;YU;YA;IE WITH GRAVE;IO;DJE;GJE;
    UKRAINIAN IE;DZE;BYELORUSSIAN-UKRAINIAN I;YI;JE;LJE;NJE;TSHE;KJE;I WITH GRAVE;SHORT U;DZHE/
    460 CYRILLIC CAPITAL LETTER *|CYRILLIC SMALL LETTER *:OMEGA;YAT;IOTIFIED E;LITTLE YUS;
    IOTIFIED LITTLE YUS;BIG YUS;IOTIFIED BIG YUS;KSI;PSI;FITA;IZHITSA;
    IZHITSA WITH DOUBLE GRAVE ACCENT;UK;ROUND OMEGA;OMEGA WITH TITLO;OT;KOPPA/
    482:CYRILLIC THOUSANDS SIGN/483 COMBINING CYRILLIC *:TITLO;PALATALIZATION;DASIA PNEUMATA;
    PSILI PNEUMATA;POKRYTIE;HUNDRED THOUSANDS SIGN;MILLIONS SIGN/48A CYRILLIC CAPITAL LETTER *|
    CYRILLIC SMALL LETTER *:SHORT I WITH TAIL;SEMISOFT SIGN;ER WITH TICK;GHE WITH UPTURN;
    GHE WITH STROKE;GHE WITH MIDDLE HOOK;ZHE WITH DESCENDER;ZE WITH DESCENDER;KA WITH DESCENDER;
    KA WITH VERTICAL STROKE;KA WITH STROKE;BASHKIR KA;EN WITH DESCENDER/4A4 CYRILLIC CAPITAL *|
    CYRILLIC SMALL *:LIGATURE EN GHE;LETTER PE WITH MIDDLE HOOK;LETTER ABKHASIAN HA;
    LETTER ES WITH DESCENDER;LETTER TE WITH DESCENDER;LETTER STRAIGHT U;
    LETTER STRAIGHT U WITH STROKE;LETTER HA WITH DESCENDER;LIGATURE TE TSE;
    LETTER CHE WITH DESCENDER;LETTER CHE WITH VERTICAL STROKE;LETTER SHHA;LETTER ABKHASIAN CHE;
    LETTER ABKHASIAN CHE WITH DESCENDER/4C0:CYRILLIC LETTER PALOCHKA/4C1 CYRILLIC CAPITAL LETTER *|
    CYRILLIC SMALL LETTER *:ZHE WITH BREVE;KA WITH HOOK;EL WITH TAIL;EN WITH HOOK;EN WITH TAIL;
    KHAKASSIAN CHE;EM WITH TAIL/4CF:CYRILLIC SMALL LETTER PALOCHKA/4D0 CYRILLIC CAPITAL *|
    CYRILLIC SMALL *:LETTER A WITH BREVE;LETTER A WITH DIAERESIS;LIGATURE A IE/
    4D6 CYRILLIC CAPITAL LETTER *|CYRILLIC SMALL LETTER *:IE WITH BREVE;SCHWA;SCHWA WITH DIAERESIS;
    ZHE WITH DIAERESIS;ZE WITH DIAERESIS;ABKHASIAN DZE;I WITH MACRON;I WITH DIAERESIS;
    O WITH DIAERESIS;BARRED O;BARRED O WITH DIAERESIS;E WITH DIAERESIS;U WITH MACRON;
    U WITH DIAERESIS;U WITH DOUBLE ACUTE;CHE WITH DIAERESIS;GHE WITH DESCENDER;YERU WITH DIAERESIS;
    GHE WITH STROKE AND HOOK;HA WITH HOOK;HA WITH STROKE;KOMI DE;KOMI DJE;KOMI ZJE;KOMI DZJE;
    KOMI LJE;KOMI NJE;KOMI SJE;KOMI TJE;REVERSED ZE;EL WITH HOOK;LHA;RHA;YAE;QA;WE;ALEUT KA;
    EL WITH MIDDLE HOOK;EN WITH MIDDLE HOOK;PE WITH DESCENDER;SHHA WITH DESCENDER;
    EN WITH LEFT HOOK;DZZHE;DCHE;EL WITH DESCENDER/531 ARMENIAN CAPITAL LETTER *:AYB;BEN;GIM;DA;
    ECH;ZA;EH;ET;TO;ZHE;INI;LIWN;XEH;CA;KEN;HO;JA;GHAD;CHEH;MEN;YI;NOW;SHA;VO;CHA;PEH;JHEH;RA;SEH;
    VEW;TIWN;REH;CO;YIWN;PIWR;KEH;OH;FEH/559 ARMENIAN *:MODIFIER LETTER LEFT HALF RING;APOSTROPHE;
    EMPHASIS MARK;EXCLAMATION MARK;COMMA;QUESTION MARK;ABBREVIATION MARK/
    560 ARMENIAN SMALL LETTER *:TURNED AYB;AYB;BEN;GIM;DA;ECH;ZA;EH;ET;TO;ZHE;INI;LIWN;XEH;CA;KEN;
    HO;JA;GHAD;CHEH;MEN;YI;NOW;SHA;VO;CHA;PEH;JHEH;RA;SEH;VEW;TIWN;REH;CO;YIWN;PIWR;KEH;OH;FEH/
    587 ARMENIAN *:SMALL LIGATURE ECH YIWN;SMALL LETTER YI WITH STROKE;FULL STOP;HYPHEN/
    58D *-FACING ARMENIAN ETERNITY SIGN:RIGHT;LEFT/58F:ARMENIAN DRAM SIGN/591 HEBREW ACCENT *:
    ETNAHTA;SEGOL;SHALSHELET;ZAQEF QATAN;ZAQEF GADOL;TIPEHA;REVIA;ZARQA;PASHTA;YETIV;TEVIR;GERESH;
    GERESH MUQDAM;GERSHAYIM;QARNEY PARA;TELISHA GEDOLA;PAZER;ATNAH HAFUKH;MUNAH;MAHAPAKH;MERKHA;
    MERKHA KEFULA;DARGA;QADMA;TELISHA QETANA;YERAH BEN YOMO;OLE;ILUY;DEHI;ZINOR/
    5AF:HEBREW MARK MASORA CIRCLE/5B0 HEBREW POINT *:SHEVA;HATAF SEGOL;HATAF PATAH;HATAF QAMATS;
    HIRIQ;TSERE;SEGOL;PATAH;QAMATS;HOLAM;HOLAM HASER FOR VAV;QUBUTS;DAGESH OR MAPIQ;METEG/
    5BE HEBREW *:PUNCTUATION MAQAF;POINT RAFE;PUNCTUATION PASEQ;POINT SHIN DOT;POINT SIN DOT;
    PUNCTUATION SOF PASUQ;MARK UPPER DOT;MARK LOWER DOT;PUNCTUATION NUN HAFUKHA;POINT QAMATS QATAN/
    5D0 HEBREW LETTER *:ALEF;BET;GIMEL;DALET;HE;VAV;ZAYIN;HET;TET;YOD;FINAL KAF;KAF;LAMED;
    FINAL MEM;MEM;FINAL NUN;NUN;SAMEKH;AYIN;FINAL PE;PE;FINAL TSADI;TSADI;QOF;RESH;SHIN;TAV/
    5EF:HEBREW YOD TRIANGLE/5F0 HEBREW LIGATURE YIDDISH *:DOUBLE VAV;VAV YOD;DOUBLE YOD/
    5F3 HEBREW PUNCTUATION *:GERESH;GERSHAYIM/600 ARABIC *:NUMBER SIGN;SIGN SANAH;FOOTNOTE MARKER;
    SIGN SAFHA;SIGN SAMVAT;NUMBER MARK ABOVE/606 ARABIC-INDIC * ROOT:CUBE;FOURTH/608:ARABIC RAY/
    609 ARABIC-INDIC PER * SIGN:MILLE;TEN THOUSAND/60B:AFGHANI SIGN/60C ARABIC *:COMMA;
    DATE SEPARATOR;POETIC VERSE SIGN/60F ARABIC SIGN *:MISRA;SALLALLAHOU ALAYHE WASSALLAM;
    ALAYHE ASSALLAM;RAHMATULLAH ALAYHE;RADI ALLAHOU ANHU;TAKHALLUS/615 ARABIC SMALL *:HIGH TAH;
    HIGH LIGATURE ALEF WITH LAM WITH YEH;HIGH ZAIN;FATHA;DAMMA;KASRA/61B ARABIC *:SEMICOLON;
    LETTER MARK;END OF TEXT MARK;TRIPLE DOT PUNCTUATION MARK;QUESTION MARK/620 ARABIC LETTER *:
    KASHMIRI YEH;HAMZA;ALEF WITH MADDA ABOVE;ALEF WITH HAMZA ABOVE;WAW WITH HAMZA ABOVE;
    ALEF WITH HAMZA BELOW;YEH WITH HAMZA ABOVE;ALEF;BEH;TEH MARBUTA;TEH;THEH;JEEM;HAH;KHAH;DAL;
    THAL;REH;ZAIN;SEEN;SHEEN;SAD;DAD;TAH;ZAH;AIN;GHAIN;KEHEH WITH TWO DOTS ABOVE;
    KEHEH WITH THREE DOTS BELOW/63D ARABIC LETTER FARSI YEH WITH *:INVERTED V;TWO DOTS ABOVE;
    THREE DOTS ABOVE/640:ARABIC TATWEEL/641 ARABIC LETTER *:FEH;QAF;KAF;LAM;MEEM;NOON;HEH;WAW;
    ALEF MAKSURA;YEH/64B ARABIC *:FATHATAN;DAMMATAN;KASRATAN;FATHA;DAMMA;KASRA;SHADDA;SUKUN;
    MADDAH ABOVE;HAMZA ABOVE;HAMZA BELOW;SUBSCRIPT ALEF;INVERTED DAMMA;MARK NOON GHUNNA;ZWARAKAY;
    VOWEL SIGN SMALL V ABOVE;VOWEL SIGN INVERTED SMALL V ABOVE;VOWEL SIGN DOT BELOW;REVERSED DAMMA;
    FATHA WITH TWO DOTS;WAVY HAMZA BELOW/660 ARABIC-INDIC DIGIT *:ZERO;ONE;TWO;THREE;FOUR;FIVE;SIX;
    SEVEN;EIGHT;NINE/66A ARABIC *:PERCENT SIGN;DECIMAL SEPARATOR;THOUSANDS SEPARATOR;
    FIVE POINTED STAR/66E ARABIC LETTER *:DOTLESS BEH;DOTLESS QAF;SUPERSCRIPT ALEF;ALEF WASLA;
    ALEF WITH WAVY HAMZA ABOVE;ALEF WITH WAVY HAMZA BELOW;HIGH HAMZA;HIGH HAMZA ALEF;
    HIGH HAMZA WAW;U WITH HAMZA ABOVE;HIGH HAMZA YEH;TTEH;TTEHEH;BEEH;TEH WITH RING;
    TEH WITH THREE DOTS ABOVE DOWNWARDS;PEH;TEHEH;BEHEH;HAH WITH HAMZA ABOVE;
    HAH WITH TWO DOTS VERTICAL ABOVE;NYEH;DYEH;HAH WITH THREE DOTS ABOVE;TCHEH;TCHEHEH;DDAL;
    DAL WITH RING;DAL WITH DOT BELOW;DAL WITH DOT BELOW AND SMALL TAH;DAHAL;DDAHAL;DUL;
    DAL WITH THREE DOTS ABOVE DOWNWARDS;DAL WITH FOUR DOTS ABOVE;RREH;REH WITH SMALL V;
    REH WITH RING;REH WITH DOT BELOW;REH WITH SMALL V BELOW;REH WITH DOT BELOW AND DOT ABOVE;
    REH WITH TWO DOTS ABOVE;JEH;REH WITH FOUR DOTS ABOVE;SEEN WITH DOT BELOW AND DOT ABOVE;
    SEEN WITH THREE DOTS BELOW;SEEN WITH THREE DOTS BELOW AND THREE DOTS ABOVE;
    SAD WITH TWO DOTS BELOW;SAD WITH THREE DOTS ABOVE;TAH WITH THREE DOTS ABOVE;
    AIN WITH THREE DOTS ABOVE;DOTLESS FEH;FEH WITH DOT MOVED BELOW;FEH WITH DOT BELOW;VEH;
    FEH WITH THREE DOTS BELOW;PEHEH;QAF WITH DOT ABOVE;QAF WITH THREE DOTS ABOVE;KEHEH;SWASH KAF;
    KAF WITH RING;KAF WITH DOT ABOVE;NG;KAF WITH THREE DOTS BELOW;GAF;GAF WITH RING;NGOEH;
    GAF WITH TWO DOTS BELOW;GUEH;GAF WITH THREE DOTS ABOVE;LAM WITH SMALL V;LAM WITH DOT ABOVE;
    LAM WITH THREE DOTS ABOVE;LAM WITH THREE DOTS BELOW;NOON WITH DOT BELOW;NOON GHUNNA;RNOON;
    NOON WITH RING;NOON WITH THREE DOTS ABOVE;HEH DOACHASHMEE;TCHEH WITH DOT ABOVE;
    HEH WITH YEH ABOVE;HEH GOAL;HEH GOAL WITH HAMZA ABOVE;TEH MARBUTA GOAL;WAW WITH RING;
    KIRGHIZ OE;OE;U;YU;KIRGHIZ YU;WAW WITH TWO DOTS ABOVE;VE;FARSI YEH;YEH WITH TAIL;
    YEH WITH SMALL V;WAW WITH DOT ABOVE;E;YEH WITH THREE DOTS BELOW;YEH BARREE;
    YEH BARREE WITH HAMZA ABOVE/6D4 ARABIC *:FULL STOP;LETTER AE/
    6D6 ARABIC SMALL HIGH LIGATURE * WITH LAM WITH ALEF MAKSURA:SAD;QAF/6D8 ARABIC SMALL HIGH *:
    MEEM INITIAL FORM;LAM ALEF;JEEM;THREE DOTS;SEEN/6DD ARABIC *:END OF AYAH;START OF RUB EL HIZB/
    6DF ARABIC SMALL *:HIGH ROUNDED ZERO;HIGH UPRIGHT RECTANGULAR ZERO;HIGH DOTLESS HEAD OF KHAH;
    HIGH MEEM ISOLATED FORM;LOW SEEN;HIGH MADDA;WAW;YEH;HIGH YEH;HIGH NOON/6E9 ARABIC *:
    PLACE OF SAJDAH;EMPTY CENTRE LOW STOP;EMPTY CENTRE HIGH STOP;
    ROUNDED HIGH STOP WITH FILLED CENTRE;SMALL LOW MEEM/6EE ARABIC LETTER * WITH INVERTED V:DAL;
    REH/6F0 EXTENDED ARABIC-INDIC DIGIT *:ZERO;ONE;TWO;THREE;FOUR;FIVE;SIX;SEVEN;EIGHT;NINE/
    6FA ARABIC LETTER * WITH DOT BELOW:SHEEN;DAD;GHAIN/6FD ARABIC SIGN SINDHI *:AMPERSAND;
    POSTPOSITION MEN/6FF:ARABIC LETTER HEH WITH INVERTED V;SYRIAC END OF PARAGRAPH/
    701 SYRIAC SUPRALINEAR *|SYRIAC SUBLINEAR *:FULL STOP;COLON/705 SYRIAC *:HORIZONTAL COLON;
    COLON SKEWED LEFT;COLON SKEWED RIGHT;SUPRALINEAR COLON SKEWED LEFT;
    SUBLINEAR COLON SKEWED RIGHT;CONTRACTION/70B SYRIAC HARKLEAN *:OBELUS;METOBELUS;ASTERISCUS/
    70F:SYRIAC ABBREVIATION MARK/710 SYRIAC LETTER *:ALAPH;SUPERSCRIPT ALAPH;BETH;GAMAL;
    GAMAL GARSHUNI;DALATH;DOTLESS DALATH RISH;HE;WAW;ZAIN;HETH;TETH;TETH GARSHUNI;YUDH;YUDH HE;
    KAPH;LAMADH;MIM;NUN;SEMKATH;FINAL SEMKATH;E;PE;REVERSED PE;SADHE;QAPH;RISH;SHIN;TAW;
    PERSIAN BHETH;PERSIAN GHAMAL;PERSIAN DHALATH/730 SYRIAC * ABOVE|SYRIAC * BELOW|SYRIAC * DOTTED:
    PTHAHA;ZQAPHA/736 SYRIAC *:RBASA ABOVE;RBASA BELOW;DOTTED ZLAMA HORIZONTAL;
    DOTTED ZLAMA ANGULAR;HBASA ABOVE;HBASA BELOW;HBASA-ESASA DOTTED;ESASA ABOVE;ESASA BELOW;RWAHA;
    FEMININE DOT;QUSHSHAYA;RUKKAKHA/743 SYRIAC * ABOVE|SYRIAC * BELOW:TWO VERTICAL DOTS;THREE DOTS;
    OBLIQUE LINE/749 SYRIAC *:MUSIC;BARREKH/74D SYRIAC LETTER SOGDIAN *:ZHAIN;KHAPH;FE/
    750 ARABIC LETTER BEH WITH *:THREE DOTS HORIZONTALLY BELOW;DOT BELOW AND THREE DOTS ABOVE;
    THREE DOTS POINTING UPWARDS BELOW;THREE DOTS POINTING UPWARDS BELOW AND TWO DOTS ABOVE;
    TWO DOTS BELOW AND DOT ABOVE;INVERTED SMALL V BELOW;SMALL V/757 ARABIC LETTER *:
    HAH WITH TWO DOTS ABOVE;HAH WITH THREE DOTS POINTING UPWARDS BELOW;
    DAL WITH TWO DOTS VERTICALLY BELOW AND SMALL TAH;DAL WITH INVERTED SMALL V BELOW;
    REH WITH STROKE;SEEN WITH FOUR DOTS ABOVE;AIN WITH TWO DOTS ABOVE;
    AIN WITH THREE DOTS POINTING DOWNWARDS ABOVE;AIN WITH TWO DOTS VERTICALLY ABOVE;
    FEH WITH TWO DOTS BELOW;FEH WITH THREE DOTS POINTING UPWARDS BELOW;KEHEH WITH DOT ABOVE;
    KEHEH WITH THREE DOTS ABOVE;KEHEH WITH THREE DOTS POINTING UPWARDS BELOW;MEEM WITH DOT ABOVE;
    MEEM WITH DOT BELOW;NOON WITH TWO DOTS BELOW;NOON WITH SMALL TAH;NOON WITH SMALL V;
    LAM WITH BAR;REH WITH TWO DOTS VERTICALLY ABOVE;REH WITH HAMZA ABOVE;
    SEEN WITH TWO DOTS VERTICALLY ABOVE;HAH WITH SMALL ARABIC LETTER TAH BELOW/
    76F ARABIC LETTER * WITH SMALL ARABIC LETTER TAH AND TWO DOTS:HAH;SEEN;REH/
    772:ARABIC LETTER HAH WITH SMALL ARABIC LETTER TAH ABOVE/
    773 ARABIC LETTER ALEF WITH EXTENDED ARABIC-INDIC DIGIT * ABOVE:TWO;THREE/
    775 ARABIC LETTER FARSI YEH WITH EXTENDED ARABIC-INDIC DIGIT *:TWO ABOVE;THREE ABOVE;
    FOUR BELOW/778 ARABIC LETTER * WITH EXTENDED ARABIC-INDIC DIGIT TWO ABOVE|
    ARABIC LETTER * WITH EXTENDED ARABIC-INDIC DIGIT THREE ABOVE:WAW;YEH BARREE/
    77C ARABIC LETTER *:HAH WITH EXTENDED ARABIC-INDIC DIGIT FOUR BELOW;
    SEEN WITH EXTENDED ARABIC-INDIC DIGIT FOUR ABOVE;SEEN WITH INVERTED V;KAF WITH TWO DOTS ABOVE/
    780 THAANA LETTER *:HAA;SHAVIYANI;NOONU;RAA;BAA;LHAVIYANI;KAAFU;ALIFU;VAAVU;MEEMU;FAAFU;DHAALU;
    THAA;LAAMU;GAAFU;GNAVIYANI;SEENU;DAVIYANI;ZAVIYANI;TAVIYANI;YAA;PAVIYANI;JAVIYANI;CHAVIYANI;
    TTAA;HHAA;KHAA;THAALU;ZAA;SHEENU;SAADHU;DAADHU;TO;ZO;AINU;GHAINU;QAAFU;WAAVU/7A6 THAANA *:
    ABAFILI;AABAAFILI;IBIFILI;EEBEEFILI;UBUFILI;OOBOOFILI;EBEFILI;EYBEYFILI;OBOFILI;OABOAFILI;
    SUKUN;LETTER NAA/7C0 NKO DIGIT *:ZERO;ONE;TWO;THREE;FOUR;FIVE;SIX;SEVEN;EIGHT;NINE/
    7CA NKO LETTER *:A;EE;I;E;U;OO;O;DAGBASINNA;N;BA;PA;TA;JA;CHA;DA;RA;RRA;SA;GBA;FA;KA;LA;
    NA WOLOSO;MA;NYA;NA;HA;WA;YA;NYA WOLOSO;JONA JA;JONA CHA;JONA RA/7EB NKO COMBINING * TONE:
    SHORT HIGH;SHORT LOW;SHORT RISING;LONG DESCENDING;LONG HIGH;LONG LOW;LONG RISING/7F2 NKO *:
    COMBINING NASALIZATION MARK;COMBINING DOUBLE DOT ABOVE;HIGH TONE APOSTROPHE;
    LOW TONE APOSTROPHE;SYMBOL OO DENNEN;SYMBOL GBAKURUNEN;COMMA;EXCLAMATION MARK;LAJANYALAN/
    7FD NKO *:DANTAYALAN;DOROME SIGN;TAMAN SIGN/800 SAMARITAN LETTER *:ALAF;BIT;GAMAN;DALAT;IY;BAA;
    ZEN;IT;TIT;YUT;KAAF;LABAT;MIM;NUN;SINGAAT;IN;FI;TSAADIY;QUF;RISH;SHAN;TAAF/
    816 SAMARITAN MARK *:IN;IN-ALAF;OCCLUSION;DAGESH/81A SAMARITAN * EPENTHETIC YUT:
    MODIFIER LETTER;MARK/81C SAMARITAN VOWEL SIGN *:LONG E;E;OVERLONG AA;LONG AA;AA;OVERLONG A;
    LONG A;A/824 SAMARITAN *:MODIFIER LETTER SHORT A;VOWEL SIGN SHORT A;VOWEL SIGN LONG U;
    VOWEL SIGN U;MODIFIER LETTER I;VOWEL SIGN LONG I;VOWEL SIGN I;VOWEL SIGN O;VOWEL SIGN SUKUN;
    MARK NEQUDAA/830 SAMARITAN PUNCTUATION *:NEQUDAA;AFSAAQ;ANGED;BAU;ATMAAU;SHIYYAALAA/
    836:SAMARITAN ABBREVIATION MARK/837 SAMARITAN PUNCTUATION *:MELODIC QITSA;ZIQAA;QITSA;ZAEF;
    TURU;ARKAANU;SOF MASHFAAT;ANNAAU/840 MANDAIC LETTER *:HALQA;AB;AG;AD;AH;USHENNA;AZ;IT;ATT;AKSA;
    AK;AL;AM;AN;AS;IN;AP;ASZ;AQ;AR;ASH;AT;DUSHENNA;KAD;AIN/859 MANDAIC * MARK:AFFRICATION;
    VOCALIZATION;GEMINATION/85E:MANDAIC PUNCTUATION/860 SYRIAC LETTER MALAYALAM *:NGA;JA;NYA;TTA;
    NNA;NNNA;BHA;RA;LLA;LLLA;SSA/870 ARABIC LETTER ALEF WITH *:ATTACHED FATHA;
    ATTACHED TOP RIGHT FATHA;RIGHT MIDDLE STROKE;LEFT MIDDLE STROKE;ATTACHED KASRA;
    ATTACHED BOTTOM RIGHT KASRA;ATTACHED ROUND DOT ABOVE;ATTACHED RIGHT ROUND DOT;
    ATTACHED LEFT ROUND DOT;ATTACHED ROUND DOT BELOW;DOT ABOVE/
    87B ARABIC LETTER ALEF WITH ATTACHED TOP RIGHT FATHA AND *|
    ARABIC LETTER ALEF WITH RIGHT MIDDLE STROKE AND *|
    ARABIC LETTER ALEF WITH ATTACHED BOTTOM RIGHT KASRA AND *:DOT ABOVE;LEFT RING/
    881 ARABIC LETTER ALEF WITH ATTACHED * HAMZA:RIGHT;LEFT/883 ARABIC TATWEEL WITH *:
    OVERSTRUCK HAMZA;OVERSTRUCK WAW;TWO DOTS BELOW/886 ARABIC *:LETTER THIN YEH;BASELINE ROUND DOT;
    RAISED ROUND DOT;LETTER NOON WITH INVERTED SMALL V/88A ARABIC LETTER * BELOW:
    HAH WITH INVERTED SMALL V;TAH WITH DOT;TAH WITH THREE DOTS;KEHEH WITH TWO DOTS VERTICALLY/
    88E:ARABIC VERTICAL TAIL/890 ARABIC * MARK ABOVE:POUND;PIASTRE/898 ARABIC SMALL *:
    HIGH WORD AL-JUZ;LOW WORD ISHMAAM;LOW WORD IMAALA;LOW WORD TASHEEL/89C ARABIC *:MADDA WAAJIB;
    SUPERSCRIPT ALEF MOKHASSAS;DOUBLED MADDA;HALF MADDA OVER MADDA/8A0 ARABIC LETTER *:
    BEH WITH SMALL V BELOW;BEH WITH HAMZA ABOVE;JEEM WITH TWO DOTS ABOVE;TAH WITH TWO DOTS ABOVE;
    FEH WITH DOT BELOW AND THREE DOTS ABOVE;QAF WITH DOT BELOW;LAM WITH DOUBLE BAR;
    MEEM WITH THREE DOTS ABOVE;YEH WITH TWO DOTS BELOW AND HAMZA ABOVE;
    YEH WITH TWO DOTS BELOW AND DOT ABOVE;REH WITH LOOP;WAW WITH DOT WITHIN;ROHINGYA YEH;LOW ALEF;
    DAL WITH THREE DOTS BELOW;SAD WITH THREE DOTS BELOW;GAF WITH INVERTED STROKE;STRAIGHT WAW;
    ZAIN WITH INVERTED V ABOVE;AIN WITH THREE DOTS BELOW;KAF WITH DOT BELOW;
    QAF WITH DOT BELOW AND NO DOTS ABOVE;BEH WITH SMALL MEEM ABOVE;PEH WITH SMALL MEEM ABOVE;
    TEH WITH SMALL TEH ABOVE;REH WITH SMALL NOON ABOVE;
    YEH WITH TWO DOTS BELOW AND SMALL NOON ABOVE;AFRICAN FEH;AFRICAN QAF;AFRICAN NOON/
    8BE ARABIC LETTER * WITH SMALL V:PEH;TEH;TTEH;TCHEH;KEHEH/
    8C3 ARABIC LETTER * WITH THREE DOTS ABOVE:GHAIN;AFRICAN QAF;JEEM/8C6 ARABIC LETTER *:
    JEEM WITH THREE DOTS BELOW;LAM WITH SMALL ARABIC LETTER TAH ABOVE;GRAF/8C9 ARABIC SMALL *:
    FARSI YEH;HIGH FARSI YEH;HIGH YEH BARREE WITH TWO DOTS BELOW;HIGH WORD SAH;HIGH ZAH/
    8CE ARABIC LARGE ROUND DOT *:ABOVE;BELOW/8D0 ARABIC * BELOW:SUKUN;LARGE CIRCLE;
    LARGE ROUND DOT INSIDE CIRCLE/8D3 ARABIC SMALL *:LOW WAW;HIGH WORD AR-RUB;HIGH SAD;HIGH AIN;
    HIGH QAF;HIGH NOON WITH KASRA;LOW NOON WITH KASRA/8DA ARABIC SMALL HIGH WORD *:ATH-THALATHA;
    AS-SAJDA;AN-NISF;SAKTA;QIF;WAQFA/8E0 ARABIC *:SMALL HIGH FOOTNOTE MARKER;SMALL HIGH SIGN SAFHA;
    DISPUTED END OF AYAH;TURNED DAMMA BELOW/8E4 ARABIC CURLY *:FATHA;DAMMA;KASRA;FATHATAN;DAMMATAN;
    KASRATAN/8EA ARABIC TONE ONE DOT *|ARABIC TONE TWO DOTS *|ARABIC TONE LOOP *:ABOVE;BELOW/
    8F0 ARABIC *:OPEN FATHATAN;OPEN DAMMATAN;OPEN KASRATAN;SMALL HIGH WAW;FATHA WITH RING;
    FATHA WITH DOT ABOVE;KASRA WITH DOT BELOW/8F7 ARABIC LEFT ARROWHEAD *|ARABIC RIGHT ARROWHEAD *:
    ABOVE;BELOW/8FB ARABIC DOUBLE RIGHT ARROWHEAD *:ABOVE;ABOVE WITH DOT/8FD ARABIC *:
    RIGHT ARROWHEAD ABOVE WITH DOT;DAMMA WITH DOT;MARK SIDEWAYS NOON GHUNNA/900 DEVANAGARI SIGN *:
    INVERTED CANDRABINDU;CANDRABINDU;ANUSVARA;VISARGA/904 DEVANAGARI LETTER *:SHORT A;A;AA;I;II;U;
    UU;VOCALIC R;VOCALIC L;CANDRA E;SHORT E;E;AI;CANDRA O;SHORT O;O;AU;KA;KHA;GA;GHA;NGA;CA;CHA;JA;
    JHA;NYA;TTA;TTHA;DDA;DDHA;NNA;TA;THA;DA;DHA;NA;NNNA;PA;PHA;BA;BHA;MA;YA;RA;RRA;LA;LLA;LLLA;VA;
    SHA;SSA;SA;HA/93A DEVANAGARI *:VOWEL SIGN OE;VOWEL SIGN OOE;SIGN NUKTA;SIGN AVAGRAHA/
    93E DEVANAGARI VOWEL SIGN *:AA;I;II;U;UU;VOCALIC R;VOCALIC RR;CANDRA E;SHORT E;E;AI;CANDRA O;
    SHORT O;O;AU/94D DEVANAGARI *:SIGN VIRAMA;VOWEL SIGN PRISHTHAMATRA E;VOWEL SIGN AW;OM;
    STRESS SIGN UDATTA;STRESS SIGN ANUDATTA;GRAVE ACCENT;ACUTE ACCENT/955 DEVANAGARI VOWEL SIGN *:
    CANDRA LONG E;UE;UUE/958 DEVANAGARI LETTER *:QA;KHHA;GHHA;ZA;DDDHA;RHA;FA;YYA;VOCALIC RR;
    VOCALIC LL/962 DEVANAGARI *:VOWEL SIGN VOCALIC L;VOWEL SIGN VOCALIC LL;DANDA;DOUBLE DANDA/
    966 DEVANAGARI DIGIT *:ZERO;ONE;TWO;THREE;FOUR;FIVE;SIX;SEVEN;EIGHT;NINE/970 DEVANAGARI *:
    ABBREVIATION SIGN;SIGN HIGH SPACING DOT/972 DEVANAGARI LETTER *:CANDRA A;OE;OOE;AW;UE;UUE;
    MARWARI DDA;ZHA;HEAVY YA;GGA;JJA;GLOTTAL STOP;DDDA;BBA/980 BENGALI *:ANJI;SIGN CANDRABINDU;
    SIGN ANUSVARA;SIGN VISARGA/985 BENGALI LETTER *:A;AA;I;II;U;UU;VOCALIC R;VOCALIC L/
    98F BENGALI LETTER *:E;AI/993 BENGALI LETTER *:O;AU;KA;KHA;GA;GHA;NGA;CA;CHA;JA;JHA;NYA;TTA;
    TTHA;DDA;DDHA;NNA;TA;THA;DA;DHA;NA/9AA BENGALI LETTER *:PA;PHA;BA;BHA;MA;YA;RA/
    9B2:BENGALI LETTER LA/9B6 BENGALI LETTER *:SHA;SSA;SA;HA/9BC BENGALI SIGN *:NUKTA;AVAGRAHA/
    9BE BENGALI VOWEL SIGN *:AA;I;II;U;UU;VOCALIC R;VOCALIC RR/9C7 BENGALI VOWEL SIGN *:E;AI/
    9CB BENGALI *:VOWEL SIGN O;VOWEL SIGN AU;SIGN VIRAMA;LETTER KHANDA TA/
    9D7:BENGALI AU LENGTH MARK/9DC BENGALI LETTER *:RRA;RHA/9DF BENGALI LETTER *:YYA;VOCALIC RR;
    VOCALIC LL/9E2 BENGALI VOWEL SIGN VOCALIC *:L;LL/9E6 BENGALI DIGIT *:ZERO;ONE;TWO;THREE;FOUR;
    FIVE;SIX;SEVEN;EIGHT;NINE/9F0 BENGALI LETTER RA WITH * DIAGONAL:MIDDLE;LOWER/
    9F2 BENGALI RUPEE *:MARK;SIGN/9F4 BENGALI CURRENCY NUMERATOR *:ONE;TWO;THREE;FOUR;
    ONE LESS THAN THE DENOMINATOR/9F9 BENGALI *:CURRENCY DENOMINATOR SIXTEEN;ISSHAR;GANDA MARK;
    LETTER VEDIC ANUSVARA;ABBREVIATION SIGN;SANDHI MARK/A01 GURMUKHI SIGN *:ADAK BINDI;BINDI;
    VISARGA/A05 GURMUKHI LETTER *:A;AA;I;II;U;UU/A0F GURMUKHI LETTER *:EE;AI/A13 GURMUKHI LETTER *:
    OO;AU;KA;KHA;GA;GHA;NGA;CA;CHA;JA;JHA;NYA;TTA;TTHA;DDA;DDHA;NNA;TA;THA;DA;DHA;NA/
    A2A GURMUKHI LETTER *:PA;PHA;BA;BHA;MA;YA;RA/A32 GURMUKHI LETTER *:LA;LLA/
    A35 GURMUKHI LETTER *:VA;SHA/A38 GURMUKHI LETTER *:SA;HA/A3C:GURMUKHI SIGN NUKTA/
    A3E GURMUKHI VOWEL SIGN *:AA;I;II;U;UU/A47 GURMUKHI VOWEL SIGN *:EE;AI/A4B GURMUKHI *:
    VOWEL SIGN OO;VOWEL SIGN AU;SIGN VIRAMA/A51:GURMUKHI SIGN UDAAT/A59 GURMUKHI LETTER *:KHHA;
    GHHA;ZA;RRA/A5E:GURMUKHI LETTER FA/A66 GURMUKHI DIGIT *:ZERO;ONE;TWO;THREE;FOUR;FIVE;SIX;SEVEN;
    EIGHT;NINE/A70 GURMUKHI *:TIPPI;ADDAK;IRI;URA;EK ONKAR;SIGN YAKASH;ABBREVIATION SIGN/
    A81 GUJARATI SIGN *:CANDRABINDU;ANUSVARA;VISARGA/A85 GUJARATI LETTER *:A;AA;I;II;U;UU;
    VOCALIC R;VOCALIC L/A8D:GUJARATI VOWEL CANDRA E/A8F GUJARATI *:LETTER E;LETTER AI;
    VOWEL CANDRA O/A93 GUJARATI LETTER *:O;AU;KA;KHA;GA;GHA;NGA;CA;CHA;JA;JHA;NYA;TTA;TTHA;DDA;
    DDHA;NNA;TA;THA;DA;DHA;NA/AAA GUJARATI LETTER *:PA;PHA;BA;BHA;MA;YA;RA/AB2 GUJARATI LETTER *:
    LA;LLA/AB5 GUJARATI LETTER *:VA;SHA;SSA;SA;HA/ABC GUJARATI SIGN *:NUKTA;AVAGRAHA/
    ABE GUJARATI VOWEL SIGN *:AA;I;II;U;UU;VOCALIC R;VOCALIC RR;CANDRA E/AC7 GUJARATI VOWEL SIGN *:
    E;AI;CANDRA O/ACB GUJARATI *:VOWEL SIGN O;VOWEL SIGN AU;SIGN VIRAMA/AD0:GUJARATI OM/
    AE0 GUJARATI LETTER VOCALIC *:RR;LL/AE2 GUJARATI VOWEL SIGN VOCALIC *:L;LL/
    AE6 GUJARATI DIGIT *:ZERO;ONE;TWO;THREE;FOUR;FIVE;SIX;SEVEN;EIGHT;NINE/AF0 GUJARATI * SIGN:
    ABBREVIATION;RUPEE/AF9 GUJARATI *:LETTER ZHA;SIGN SUKUN;SIGN SHADDA;SIGN MADDAH/
    AFD GUJARATI SIGN * NUKTA ABOVE:THREE-DOT;CIRCLE;TWO-CIRCLE/B01 ORIYA SIGN *:CANDRABINDU;
    ANUSVARA;VISARGA/B05 ORIYA LETTER *:A;AA;I;II;U;UU;VOCALIC R;VOCALIC L/B0F ORIYA LETTER *:E;AI/
    B13 ORIYA LETTER *:O;AU;KA;KHA;GA;GHA;NGA;CA;CHA;JA;JHA;NYA;TTA;TTHA;DDA;DDHA;NNA;TA;THA;DA;
    DHA;NA/B2A ORIYA LETTER *:PA;PHA;BA;BHA;MA;YA;RA/B32 ORIYA LETTER *:LA;LLA/B35 ORIYA LETTER *:
    VA;SHA;SSA;SA;HA/B3C ORIYA SIGN *:NUKTA;AVAGRAHA/B3E ORIYA VOWEL SIGN *:AA;I;II;U;UU;VOCALIC R;
    VOCALIC RR/B47 ORIYA VOWEL SIGN *:E;AI/B4B ORIYA *:VOWEL SIGN O;VOWEL SIGN AU;SIGN VIRAMA/
    B55 ORIYA *:SIGN OVERLINE;AI LENGTH MARK;AU LENGTH MARK/B5C ORIYA LETTER *:RRA;RHA/
    B5F ORIYA LETTER *:YYA;VOCALIC RR;VOCALIC LL/B62 ORIYA VOWEL SIGN VOCALIC *:L;LL/
    B66 ORIYA DIGIT *:ZERO;ONE;TWO;THREE;FOUR;FIVE;SIX;SEVEN;EIGHT;NINE/B70 ORIYA *:ISSHAR;
    LETTER WA/B72 ORIYA FRACTION *:ONE QUARTER;ONE HALF;THREE QUARTERS;ONE SIXTEENTH;ONE EIGHTH;
    THREE SIXTEENTHS/B82 TAMIL SIGN *:ANUSVARA;VISARGA/B85 TAMIL LETTER *:A;AA;I;II;U;UU/
    B8E TAMIL LETTER *:E;EE;AI/B92 TAMIL LETTER *:O;OO;AU;KA/B99 TAMIL LETTER *:NGA;CA/
    B9C:TAMIL LETTER JA/B9E TAMIL LETTER *:NYA;TTA/BA3 TAMIL LETTER *:NNA;TA/BA8 TAMIL LETTER *:NA;
    NNNA;PA/BAE TAMIL LETTER *:MA;YA;RA;RRA;LA;LLA;LLLA;VA;SHA;SSA;SA;HA/BBE TAMIL VOWEL SIGN *:AA;
    I;II;U;UU/BC6 TAMIL VOWEL SIGN *:E;EE;AI/BCA TAMIL VOWEL SIGN *:O;OO;AU/BCD:TAMIL SIGN VIRAMA/
    BD0:TAMIL OM/BD7:TAMIL AU LENGTH MARK/BE6 TAMIL DIGIT *:ZERO;ONE;TWO;THREE;FOUR;FIVE;SIX;SEVEN;
    EIGHT;NINE/BF0 TAMIL NUMBER *:TEN;ONE HUNDRED;ONE THOUSAND/BF3 TAMIL * SIGN:DAY;MONTH;YEAR;
    DEBIT;CREDIT;AS ABOVE;RUPEE;NUMBER/C00 TELUGU SIGN *:COMBINING CANDRABINDU ABOVE;CANDRABINDU;
    ANUSVARA;VISARGA;COMBINING ANUSVARA ABOVE/C05 TELUGU LETTER *:A;AA;I;II;U;UU;VOCALIC R;
    VOCALIC L/C0E TELUGU LETTER *:E;EE;AI/C12 TELUGU LETTER *:O;OO;AU;KA;KHA;GA;GHA;NGA;CA;CHA;JA;
    JHA;NYA;TTA;TTHA;DDA;DDHA;NNA;TA;THA;DA;DHA;NA/C2A TELUGU LETTER *:PA;PHA;BA;BHA;MA;YA;RA;RRA;
    LA;LLA;LLLA;VA;SHA;SSA;SA;HA/C3C TELUGU SIGN *:NUKTA;AVAGRAHA/C3E TELUGU VOWEL SIGN *:AA;I;II;
    U;UU;VOCALIC R;VOCALIC RR/C46 TELUGU VOWEL SIGN *:E;EE;AI/C4A TELUGU VOWEL SIGN *:O;OO;AU/
    C4D:TELUGU SIGN VIRAMA/C55 TELUGU * MARK:LENGTH;AI LENGTH/C58 TELUGU LETTER *:TSA;DZA;RRRA/
    C5D:TELUGU LETTER NAKAARA POLLU/C60 TELUGU LETTER VOCALIC *:RR;LL/
    C62 TELUGU VOWEL SIGN VOCALIC *:L;LL/C66 TELUGU DIGIT *:ZERO;ONE;TWO;THREE;FOUR;FIVE;SIX;SEVEN;
    EIGHT;NINE/C77:TELUGU SIGN SIDDHAM/C78 TELUGU FRACTION DIGIT * POWERS OF FOUR:ZERO FOR ODD;
    ONE FOR ODD;TWO FOR ODD;THREE FOR ODD;ONE FOR EVEN;TWO FOR EVEN;THREE FOR EVEN/
    C7F:TELUGU SIGN TUUMU/C80 KANNADA SIGN *:SPACING CANDRABINDU;CANDRABINDU;ANUSVARA;VISARGA;
    SIDDHAM/C85 KANNADA LETTER *:A;AA;I;II;U;UU;VOCALIC R;VOCALIC L/C8E KANNADA LETTER *:E;EE;AI/
    C92 KANNADA LETTER *:O;OO;AU;KA;KHA;GA;GHA;NGA;CA;CHA;JA;JHA;NYA;TTA;TTHA;DDA;DDHA;NNA;TA;THA;
    DA;DHA;NA/CAA KANNADA LETTER *:PA;PHA;BA;BHA;MA;YA;RA;RRA;LA;LLA/CB5 KANNADA LETTER *:VA;SHA;
    SSA;SA;HA/CBC KANNADA SIGN *:NUKTA;AVAGRAHA/CBE KANNADA VOWEL SIGN *:AA;I;II;U;UU;VOCALIC R;
    VOCALIC RR/CC6 KANNADA VOWEL SIGN *:E;EE;AI/CCA KANNADA VOWEL SIGN *:O;OO;AU/
    CCD:KANNADA SIGN VIRAMA/CD5 KANNADA * MARK:LENGTH;AI LENGTH/CDD KANNADA LETTER *:NAKAARA POLLU;
    FA/CE0 KANNADA LETTER VOCALIC *:RR;LL/CE2 KANNADA VOWEL SIGN VOCALIC *:L;LL/
    CE6 KANNADA DIGIT *:ZERO;ONE;TWO;THREE;FOUR;FIVE;SIX;SEVEN;EIGHT;NINE/CF1 KANNADA SIGN *:
    JIHVAMULIYA;UPADHMANIYA/D00 MALAYALAM SIGN *:COMBINING ANUSVARA ABOVE;CANDRABINDU;ANUSVARA;
    VISARGA/D04 MALAYALAM LETTER *:VEDIC ANUSVARA;A;AA;I;II;U;UU;VOCALIC R;VOCALIC L/
    D0E MALAYALAM LETTER *:E;EE;AI/D12 MALAYALAM LETTER *:O;OO;AU;KA;KHA;GA;GHA;NGA;CA;CHA;JA;JHA;
    NYA;TTA;TTHA;DDA;DDHA;NNA;TA;THA;DA;DHA;NA;NNNA;PA;PHA;BA;BHA;MA;YA;RA;RRA;LA;LLA;LLLA;VA;SHA;
    SSA;SA;HA;TTTA/D3B MALAYALAM SIGN *:VERTICAL BAR VIRAMA;CIRCULAR VIRAMA;AVAGRAHA/
    D3E MALAYALAM VOWEL SIGN *:AA;I;II;U;UU;VOCALIC R;VOCALIC RR/D46 MALAYALAM VOWEL SIGN *:E;EE;
    AI/D4A MALAYALAM VOWEL SIGN *:O;OO;AU/D4D MALAYALAM *:SIGN VIRAMA;LETTER DOT REPH;SIGN PARA/
    D54 MALAYALAM LETTER CHILLU *:M;Y;LLL/D57:MALAYALAM AU LENGTH MARK/D58 MALAYALAM FRACTION *:
    ONE ONE-HUNDRED-AND-SIXTIETH;ONE FORTIETH;THREE EIGHTIETHS;ONE TWENTIETH;ONE TENTH;
    THREE TWENTIETHS;ONE FIFTH/D5F MALAYALAM LETTER *:ARCHAIC II;VOCALIC RR;VOCALIC LL/
    D62 MALAYALAM VOWEL SIGN VOCALIC *:L;LL/D66 MALAYALAM DIGIT *:ZERO;ONE;TWO;THREE;FOUR;FIVE;SIX;
    SEVEN;EIGHT;NINE/D70 MALAYALAM NUMBER *:TEN;ONE HUNDRED;ONE THOUSAND/D73 MALAYALAM FRACTION *:
    ONE QUARTER;ONE HALF;THREE QUARTERS;ONE SIXTEENTH;ONE EIGHTH;THREE SIXTEENTHS/
    D79:MALAYALAM DATE MARK/D7A MALAYALAM LETTER CHILLU *:NN;N;RR;L;LL;K/D81 SINHALA SIGN *:
    CANDRABINDU;ANUSVARAYA;VISARGAYA/D85 SINHALA LETTER *:AYANNA;AAYANNA;AEYANNA;AEEYANNA;IYANNA;
    IIYANNA;UYANNA;UUYANNA;IRUYANNA;IRUUYANNA;ILUYANNA;ILUUYANNA;EYANNA;EEYANNA;AIYANNA;OYANNA;
    OOYANNA;AUYANNA/D9A SINHALA LETTER *:ALPAPRAANA KAYANNA;MAHAAPRAANA KAYANNA;ALPAPRAANA GAYANNA;
    MAHAAPRAANA GAYANNA;KANTAJA NAASIKYAYA;SANYAKA GAYANNA;ALPAPRAANA CAYANNA;MAHAAPRAANA CAYANNA;
    ALPAPRAANA JAYANNA;MAHAAPRAANA JAYANNA;TAALUJA NAASIKYAYA;TAALUJA SANYOOGA NAAKSIKYAYA;
    SANYAKA JAYANNA;ALPAPRAANA TTAYANNA;MAHAAPRAANA TTAYANNA;ALPAPRAANA DDAYANNA;
    MAHAAPRAANA DDAYANNA;MUURDHAJA NAYANNA;SANYAKA DDAYANNA;ALPAPRAANA TAYANNA;MAHAAPRAANA TAYANNA;
    ALPAPRAANA DAYANNA;MAHAAPRAANA DAYANNA;DANTAJA NAYANNA/DB3 SINHALA LETTER *:SANYAKA DAYANNA;
    ALPAPRAANA PAYANNA;MAHAAPRAANA PAYANNA;ALPAPRAANA BAYANNA;MAHAAPRAANA BAYANNA;MAYANNA;
    AMBA BAYANNA;YAYANNA;RAYANNA/DBD:SINHALA LETTER DANTAJA LAYANNA/DC0 SINHALA LETTER *:VAYANNA;
    TAALUJA SAYANNA;MUURDHAJA SAYANNA;DANTAJA SAYANNA;HAYANNA;MUURDHAJA LAYANNA;FAYANNA/
    DCA:SINHALA SIGN AL-LAKUNA/DCF SINHALA VOWEL SIGN *-PILLA:AELA;KETTI AEDA;DIGA AEDA;KETTI IS;
    DIGA IS;KETTI PAA/DD6:SINHALA VOWEL SIGN DIGA PAA-PILLA/DD8 SINHALA VOWEL SIGN *:GAETTA-PILLA;
    KOMBUVA;DIGA KOMBUVA;KOMBU DEKA;KOMBUVA HAA AELA-PILLA;KOMBUVA HAA DIGA AELA-PILLA;
    KOMBUVA HAA GAYANUKITTA;GAYANUKITTA/DE6 SINHALA LITH DIGIT *:ZERO;ONE;TWO;THREE;FOUR;FIVE;SIX;
    SEVEN;EIGHT;NINE/DF2 SINHALA *:VOWEL SIGN DIGA GAETTA-PILLA;VOWEL SIGN DIGA GAYANUKITTA;
    PUNCTUATION KUNDDALIYA/E01 THAI CHARACTER *:KO KAI;KHO KHAI;KHO KHUAT;KHO KHWAI;KHO KHON;
    KHO RAKHANG;NGO NGU;CHO CHAN;CHO CHING;CHO CHANG;SO SO;CHO CHOE;YO YING;DO CHADA;TO PATAK;
    THO THAN;THO NANGMONTHO;THO PHUTHAO;NO NEN;DO DEK;TO TAO;THO THUNG;THO THAHAN;THO THONG;NO NU;
    BO BAIMAI;PO PLA;PHO PHUNG;FO FA;PHO PHAN;FO FAN;PHO SAMPHAO;MO MA;YO YAK;RO RUA;RU;LO LING;LU;
    WO WAEN;SO SALA;SO RUSI;SO SUA;HO HIP;LO CHULA;O ANG;HO NOKHUK;PAIYANNOI;SARA A;MAI HAN-AKAT;
    SARA AA;SARA AM;SARA I;SARA II;SARA UE;SARA UEE;SARA U;SARA UU;PHINTHU/
    E3F:THAI CURRENCY SYMBOL BAHT/E40 THAI CHARACTER *:SARA E;SARA AE;SARA O;SARA AI MAIMUAN;
    SARA AI MAIMALAI;LAKKHANGYAO;MAIYAMOK;MAITAIKHU;MAI EK;MAI THO;MAI TRI;MAI CHATTAWA;
    THANTHAKHAT;NIKHAHIT;YAMAKKAN;FONGMAN/E50 THAI DIGIT *:ZERO;ONE;TWO;THREE;FOUR;FIVE;SIX;SEVEN;
    EIGHT;NINE/E5A THAI CHARACTER *:ANGKHANKHU;KHOMUT/E81 LAO LETTER *:KO;KHO SUNG/
    E84:LAO LETTER KHO TAM/E86 LAO LETTER *:PALI GHA;NGO;CO;PALI CHA;SO TAM/E8C LAO LETTER *:
    PALI JHA;NYO;PALI NYA;PALI TTA;PALI TTHA;PALI DDA;PALI DDHA;PALI NNA;DO;TO;THO SUNG;THO TAM;
    PALI DHA;NO;BO;PO;PHO SUNG;FO TAM;PHO TAM;FO SUNG;PALI BHA;MO;YO;LO LING/
    EA5:LAO LETTER LO LOOT/EA7 LAO LETTER *:WO;SANSKRIT SHA;SANSKRIT SSA;SO SUNG;HO SUNG;PALI LLA;
    O;HO TAM/EAF:LAO ELLIPSIS/EB0 LAO VOWEL SIGN *:A;MAI KAN;AA;AM;I;II;Y;YY;U;UU/EBA LAO *:
    SIGN PALI VIRAMA;VOWEL SIGN MAI KON/EBC LAO SEMIVOWEL SIGN *:LO;NYO/EC0 LAO VOWEL SIGN *:E;EI;
    O;AY;AI/EC6:LAO KO LA/EC8 LAO TONE MAI *:EK;THO;TI;CATAWA/ECC LAO *:CANCELLATION MARK;
    NIGGAHITA/ED0 LAO DIGIT *:ZERO;ONE;TWO;THREE;FOUR;FIVE;SIX;SEVEN;EIGHT;NINE/EDC LAO HO *:NO;MO/
    EDE LAO LETTER KHMU *:GO;NYO/F00:TIBETAN SYLLABLE OM/F01 TIBETAN MARK GTER YIG MGO *:
    TRUNCATED A;-UM RNAM BCAD MA;-UM GTER TSHEG MA/F04 TIBETAN MARK *:INITIAL YIG MGO MDUN MA;
    CLOSING YIG MGO SGAB MA;CARET YIG MGO PHUR SHAD MA;YIG MGO TSHEG SHAD MA;SBRUL SHAD;
    BSKUR YIG MGO;BKA- SHOG YIG MGO;INTERSYLLABIC TSHEG;DELIMITER TSHEG BSTAR;SHAD;NYIS SHAD;
    TSHEG SHAD;NYIS TSHEG SHAD;RIN CHEN SPUNGS SHAD;RGYA GRAM SHAD;CARET -DZUD RTAGS ME LONG CAN;
    GTER TSHEG/F15 TIBETAN LOGOTYPE SIGN * RTAGS:CHAD;LHAG/F17 TIBETAN ASTROLOGICAL SIGN *:
    SGRA GCAN -CHAR RTAGS;-KHYUD PA;SDONG TSHUGS/F1A TIBETAN SIGN RDEL *:DKAR GCIG;DKAR GNYIS;
    DKAR GSUM;NAG GCIG;NAG GNYIS;DKAR RDEL NAG/F20 TIBETAN DIGIT *:ZERO;ONE;TWO;THREE;FOUR;FIVE;
    SIX;SEVEN;EIGHT;NINE/F2A TIBETAN DIGIT HALF *:ONE;TWO;THREE;FOUR;FIVE;SIX;SEVEN;EIGHT;NINE;
    ZERO/F34 TIBETAN MARK *:BSDUS RTAGS;NGAS BZUNG NYI ZLA;CARET -DZUD RTAGS BZHI MIG CAN;
    NGAS BZUNG SGOR RTAGS;CHE MGO;TSA -PHRU;GUG RTAGS GYON;GUG RTAGS GYAS;ANG KHANG GYON;
    ANG KHANG GYAS/F3E TIBETAN SIGN * TSHES:YAR;MAR/F40 TIBETAN LETTER *:KA;KHA;GA;GHA;NGA;CA;CHA;
    JA/F49 TIBETAN LETTER *:NYA;TTA;TTHA;DDA;DDHA;NNA;TA;THA;DA;DHA;NA;PA;PHA;BA;BHA;MA;TSA;TSHA;
    DZA;DZHA;WA;ZHA;ZA;-A;YA;RA;LA;SHA;SSA;SA;HA;A;KSSA;FIXED-FORM RA;KKA;RRA/
    F71 TIBETAN VOWEL SIGN *:AA;I;II;U;UU;VOCALIC R;VOCALIC RR;VOCALIC L;VOCALIC LL;E;EE;O;OO/
    F7E TIBETAN *:SIGN RJES SU NGA RO;SIGN RNAM BCAD;VOWEL SIGN REVERSED I;VOWEL SIGN REVERSED II;
    SIGN NYI ZLA NAA DA;SIGN SNA LDAN;MARK HALANTA;MARK PALUTA/F86 TIBETAN SIGN *:LCI RTAGS;
    YANG RTAGS;LCE TSA CAN;MCHU CAN;GRU CAN RGYINGS;GRU MED RGYINGS;INVERTED MCHU CAN/
    F8D TIBETAN SUBJOINED SIGN * CAN:LCE TSA;MCHU;INVERTED MCHU/F90 TIBETAN SUBJOINED LETTER *:KA;
    KHA;GA;GHA;NGA;CA;CHA;JA/F99 TIBETAN SUBJOINED LETTER *:NYA;TTA;TTHA;DDA;DDHA;NNA;TA;THA;DA;
    DHA;NA;PA;PHA;BA;BHA;MA;TSA;TSHA;DZA;DZHA;WA;ZHA;ZA;-A;YA;RA;LA;SHA;SSA;SA;HA;A;KSSA;
    FIXED-FORM WA;FIXED-FORM YA;FIXED-FORM RA/FBE TIBETAN KU RU *:KHA;KHA BZHI MIG CAN/
    FC0 TIBETAN CANTILLATION SIGN *:HEAVY BEAT;LIGHT BEAT;CANG TE-U;SBUB -CHAL/
    FC4 TIBETAN SYMBOL *:DRIL BU;RDO RJE;PADMA GDAN;RDO RJE RGYA GRAM;PHUR PA;NOR BU/
    FCA TIBETAN SYMBOL NOR BU * -KHYIL:NYIS;GSUM;BZHI/FCE TIBETAN SIGN RDEL NAG *:RDEL DKAR;GSUM/
    FD0 TIBETAN MARK *:BSKA- SHOG GI MGO RGYAN;MNYAM YIG GI MGO RGYAN;NYIS TSHEG;
    INITIAL BRDA RNYING YIG MGO MDUN MA;CLOSING BRDA RNYING YIG MGO SGAB MA/
    FD5 RIGHT-FACING SVASTI *|LEFT-FACING SVASTI *:SIGN;SIGN WITH DOTS/
    FD9 TIBETAN MARK * MCHAN RTAGS:LEADING;TRAILING/1000 MYANMAR LETTER *:KA;KHA;GA;GHA;NGA;CA;CHA;
    JA;JHA;NYA;NNYA;TTA;TTHA;DDA;DDHA;NNA;TA;THA;DA;DHA;NA;PA;PHA;BA;BHA;MA;YA;RA;LA;WA;SA;HA;LLA;
    A;SHAN A;I;II;U;UU;E;MON E;O;AU/102B MYANMAR VOWEL SIGN *:TALL AA;AA;I;II;U;UU;E;AI;MON II;
    MON O;E ABOVE/1036 MYANMAR SIGN *:ANUSVARA;DOT BELOW;VISARGA;VIRAMA;ASAT/
    103B MYANMAR CONSONANT SIGN MEDIAL *:YA;RA;WA;HA/103F:MYANMAR LETTER GREAT SA/
    1040 MYANMAR DIGIT *:ZERO;ONE;TWO;THREE;FOUR;FIVE;SIX;SEVEN;EIGHT;NINE/104A MYANMAR *:
    SIGN LITTLE SECTION;SIGN SECTION;SYMBOL LOCATIVE;SYMBOL COMPLETED;SYMBOL AFOREMENTIONED;
    SYMBOL GENITIVE;LETTER SHA;LETTER SSA/1052 MYANMAR LETTER VOCALIC *:R;RR;L;LL/
    1056 MYANMAR VOWEL SIGN VOCALIC *:R;RR;L;LL/105A MYANMAR LETTER MON *:NGA;JHA;BBA;BBE/
    105E MYANMAR CONSONANT SIGN MON MEDIAL *:NA;MA;LA/1061 MYANMAR *:LETTER SGAW KAREN SHA;
    VOWEL SIGN SGAW KAREN EU/1063 MYANMAR TONE MARK SGAW KAREN *:HATHI;KE PHO/
    1065 MYANMAR LETTER WESTERN PWO KAREN *:THA;PWA/1067 MYANMAR VOWEL SIGN WESTERN PWO KAREN *:EU;
    UE/1069 MYANMAR SIGN WESTERN PWO KAREN TONE-*:1;2;3;4;5/
    106E MYANMAR LETTER EASTERN PWO KAREN *:NNA;YWA;GHWA/1071 MYANMAR VOWEL SIGN *:GEBA KAREN I;
    KAYAH OE;KAYAH U;KAYAH EE/1075 MYANMAR LETTER SHAN *:KA;KHA;GA;CA;ZA;NYA;DA;NA;PHA;FA;BA;THA;
    HA/1082:MYANMAR CONSONANT SIGN SHAN MEDIAL WA/1083 MYANMAR VOWEL SIGN SHAN *:AA;E;E ABOVE;
    FINAL Y/1087 MYANMAR SIGN SHAN TONE-*:2;3;5;6/108B MYANMAR SIGN SHAN COUNCIL *:TONE-2;TONE-3;
    EMPHATIC TONE/108E MYANMAR *:LETTER RUMAI PALAUNG FA;SIGN RUMAI PALAUNG TONE-5/
    1090 MYANMAR SHAN DIGIT *:ZERO;ONE;TWO;THREE;FOUR;FIVE;SIX;SEVEN;EIGHT;NINE/
    109A MYANMAR SIGN KHAMTI TONE-*:1;3/109C MYANMAR VOWEL SIGN AITON *:A;AI/
    109E MYANMAR SYMBOL SHAN *:ONE;EXCLAMATION/10A0 GEORGIAN CAPITAL LETTER *:AN;BAN;GAN;DON;EN;
    VIN;ZEN;TAN;IN;KAN;LAS;MAN;NAR;ON;PAR;ZHAR;RAE;SAN;TAR;UN;PHAR;KHAR;GHAN;QAR;SHIN;CHIN;CAN;JIL;
    CIL;CHAR;XAN;JHAN;HAE;HE;HIE;WE;HAR;HOE/10C7:GEORGIAN CAPITAL LETTER YN/
    10CD:GEORGIAN CAPITAL LETTER AEN/10D0 GEORGIAN LETTER *:AN;BAN;GAN;DON;EN;VIN;ZEN;TAN;IN;KAN;
    LAS;MAN;NAR;ON;PAR;ZHAR;RAE;SAN;TAR;UN;PHAR;KHAR;GHAN;QAR;SHIN;CHIN;CAN;JIL;CIL;CHAR;XAN;JHAN;
    HAE;HE;HIE;WE;HAR;HOE;FI;YN;ELIFI;TURNED GAN;AIN/10FB:GEORGIAN PARAGRAPH SEPARATOR;
    MODIFIER LETTER GEORGIAN NAR/10FD GEORGIAN LETTER *:AEN;HARD SIGN;LABIAL SIGN/
    1100 HANGUL CHOSEONG *:KIYEOK;SSANGKIYEOK;NIEUN;TIKEUT;SSANGTIKEUT;RIEUL;MIEUM;PIEUP;
    SSANGPIEUP;SIOS;SSANGSIOS;IEUNG;CIEUC;SSANGCIEUC;CHIEUCH;KHIEUKH;THIEUTH;PHIEUPH;HIEUH;
    NIEUN-KIYEOK;SSANGNIEUN;NIEUN-TIKEUT;NIEUN-PIEUP;TIKEUT-KIYEOK;RIEUL-NIEUN;SSANGRIEUL;
    RIEUL-HIEUH;KAPYEOUNRIEUL;MIEUM-PIEUP;KAPYEOUNMIEUM/111E HANGUL CHOSEONG PIEUP-*:KIYEOK;NIEUN;
    TIKEUT;SIOS;SIOS-KIYEOK;SIOS-TIKEUT;SIOS-PIEUP;SSANGSIOS;SIOS-CIEUC;CIEUC;CHIEUCH;THIEUTH;
    PHIEUPH/112B HANGUL CHOSEONG *:KAPYEOUNPIEUP;KAPYEOUNSSANGPIEUP/112D HANGUL CHOSEONG SIOS-*:
    KIYEOK;NIEUN;TIKEUT;RIEUL;MIEUM;PIEUP;PIEUP-KIYEOK;SSANGSIOS;IEUNG;CIEUC;CHIEUCH;KHIEUKH;
    THIEUTH;PHIEUPH;HIEUH/113C HANGUL CHOSEONG *:CHITUEUMSIOS;CHITUEUMSSANGSIOS;CEONGCHIEUMSIOS;
    CEONGCHIEUMSSANGSIOS;PANSIOS;IEUNG-KIYEOK;IEUNG-TIKEUT;IEUNG-MIEUM;IEUNG-PIEUP;IEUNG-SIOS;
    IEUNG-PANSIOS;SSANGIEUNG;IEUNG-CIEUC;IEUNG-CHIEUCH;IEUNG-THIEUTH;IEUNG-PHIEUPH;YESIEUNG;
    CIEUC-IEUNG;CHITUEUMCIEUC;CHITUEUMSSANGCIEUC;CEONGCHIEUMCIEUC;CEONGCHIEUMSSANGCIEUC;
    CHIEUCH-KHIEUKH;CHIEUCH-HIEUH;CHITUEUMCHIEUCH;CEONGCHIEUMCHIEUCH;PHIEUPH-PIEUP;KAPYEOUNPHIEUPH;
    SSANGHIEUH;YEORINHIEUH;KIYEOK-TIKEUT;NIEUN-SIOS;NIEUN-CIEUC;NIEUN-HIEUH;TIKEUT-RIEUL;FILLER/
    1160 HANGUL JUNGSEONG *:FILLER;A;AE;YA;YAE;EO;E;YEO;YE;O;WA;WAE;OE;YO;U;WEO;WE;WI;YU;EU;YI;I;
    A-O;A-U;YA-O;YA-YO;EO-O;EO-U;EO-EU;YEO-O;YEO-U;O-EO;O-E;O-YE;O-O;O-U;YO-YA;YO-YAE;YO-YEO;YO-O;
    YO-I;U-A;U-AE;U-EO-EU;U-YE;U-U;YU-A;YU-EO;YU-E;YU-YEO;YU-YE;YU-U;YU-I;EU-U;EU-EU;YI-U;I-A;I-YA;
    I-O;I-U;I-EU;I-ARAEA;ARAEA;ARAEA-EO;ARAEA-U;ARAEA-I;SSANGARAEA;A-EU;YA-U;YEO-YA;O-YA;O-YAE/
    11A8 HANGUL JONGSEONG *:KIYEOK;SSANGKIYEOK;KIYEOK-SIOS;NIEUN;NIEUN-CIEUC;NIEUN-HIEUH;TIKEUT;
    RIEUL;RIEUL-KIYEOK;RIEUL-MIEUM;RIEUL-PIEUP;RIEUL-SIOS;RIEUL-THIEUTH;RIEUL-PHIEUPH;RIEUL-HIEUH;
    MIEUM;PIEUP;PIEUP-SIOS;SIOS;SSANGSIOS;IEUNG;CIEUC;CHIEUCH;KHIEUKH;THIEUTH;PHIEUPH;HIEUH;
    KIYEOK-RIEUL;KIYEOK-SIOS-KIYEOK;NIEUN-KIYEOK;NIEUN-TIKEUT;NIEUN-SIOS;NIEUN-PANSIOS;
    NIEUN-THIEUTH;TIKEUT-KIYEOK;TIKEUT-RIEUL;RIEUL-KIYEOK-SIOS;RIEUL-NIEUN;RIEUL-TIKEUT;
    RIEUL-TIKEUT-HIEUH;SSANGRIEUL/11D1 HANGUL JONGSEONG RIEUL-*:MIEUM-KIYEOK;MIEUM-SIOS;PIEUP-SIOS;
    PIEUP-HIEUH;KAPYEOUNPIEUP;SSANGSIOS;PANSIOS;KHIEUKH;YEORINHIEUH/11DA HANGUL JONGSEONG MIEUM-*:
    KIYEOK;RIEUL;PIEUP;SIOS;SSANGSIOS;PANSIOS;CHIEUCH;HIEUH/11E2 HANGUL JONGSEONG *:KAPYEOUNMIEUM;
    PIEUP-RIEUL;PIEUP-PHIEUPH;PIEUP-HIEUH;KAPYEOUNPIEUP;SIOS-KIYEOK;SIOS-TIKEUT;SIOS-RIEUL;
    SIOS-PIEUP;PANSIOS;IEUNG-KIYEOK;IEUNG-SSANGKIYEOK;SSANGIEUNG;IEUNG-KHIEUKH;YESIEUNG;
    YESIEUNG-SIOS;YESIEUNG-PANSIOS;PHIEUPH-PIEUP;KAPYEOUNPHIEUPH;HIEUH-NIEUN;HIEUH-RIEUL;
    HIEUH-MIEUM;HIEUH-PIEUP;YEORINHIEUH;KIYEOK-NIEUN;KIYEOK-PIEUP;KIYEOK-CHIEUCH;KIYEOK-KHIEUKH;
    KIYEOK-HIEUH;SSANGNIEUN/1200 ETHIOPIC SYLLABLE *:HA;HU;HI;HAA;HEE;HE;HO;HOA;LA;LU;LI;LAA;LEE;
    LE;LO;LWA;HHA;HHU;HHI;HHAA;HHEE;HHE;HHO;HHWA;MA;MU;MI;MAA;MEE;ME;MO;MWA;SZA;SZU;SZI;SZAA;SZEE;
    SZE;SZO;SZWA;RA;RU;RI;RAA;REE;RE;RO;RWA;SA;SU;SI;SAA;SEE;SE;SO;SWA;SHA;SHU;SHI;SHAA;SHEE;SHE;
    SHO;SHWA;QA;QU;QI;QAA;QEE;QE;QO;QOA;QWA/124A ETHIOPIC SYLLABLE *:QWI;QWAA;QWEE;QWE/
    1250 ETHIOPIC SYLLABLE *:QHA;QHU;QHI;QHAA;QHEE;QHE;QHO/1258:ETHIOPIC SYLLABLE QHWA/
    125A ETHIOPIC SYLLABLE *:QHWI;QHWAA;QHWEE;QHWE/1260 ETHIOPIC SYLLABLE *:BA;BU;BI;BAA;BEE;BE;BO;
    BWA;VA;VU;VI;VAA;VEE;VE;VO;VWA;TA;TU;TI;TAA;TEE;TE;TO;TWA;CA;CU;CI;CAA;CEE;CE;CO;CWA;XA;XU;XI;
    XAA;XEE;XE;XO;XOA;XWA/128A ETHIOPIC SYLLABLE *:XWI;XWAA;XWEE;XWE/1290 ETHIOPIC SYLLABLE *:NA;
    NU;NI;NAA;NEE;NE;NO;NWA;NYA;NYU;NYI;NYAA;NYEE;NYE;NYO;NYWA/12A0 ETHIOPIC SYLLABLE GLOTTAL *:A;
    U;I;AA;EE;E;O;WA/12A8 ETHIOPIC SYLLABLE *:KA;KU;KI;KAA;KEE;KE;KO;KOA;KWA/
    12B2 ETHIOPIC SYLLABLE *:KWI;KWAA;KWEE;KWE/12B8 ETHIOPIC SYLLABLE *:KXA;KXU;KXI;KXAA;KXEE;KXE;
    KXO/12C0:ETHIOPIC SYLLABLE KXWA/12C2 ETHIOPIC SYLLABLE *:KXWI;KXWAA;KXWEE;KXWE/
    12C8 ETHIOPIC SYLLABLE *:WA;WU;WI;WAA;WEE;WE;WO;WOA/12D0 ETHIOPIC SYLLABLE PHARYNGEAL *:A;U;I;
    AA;EE;E;O/12D8 ETHIOPIC SYLLABLE *:ZA;ZU;ZI;ZAA;ZEE;ZE;ZO;ZWA;ZHA;ZHU;ZHI;ZHAA;ZHEE;ZHE;ZHO;
    ZHWA;YA;YU;YI;YAA;YEE;YE;YO;YOA;DA;DU;DI;DAA;DEE;DE;DO;DWA;DDA;DDU;DDI;DDAA;DDEE;DDE;DDO;DDWA;
    JA;JU;JI;JAA;JEE;JE;JO;JWA;GA;GU;GI;GAA;GEE;GE;GO;GOA;GWA/1312 ETHIOPIC SYLLABLE *:GWI;GWAA;
    GWEE;GWE/1318 ETHIOPIC SYLLABLE *:GGA;GGU;GGI;GGAA;GGEE;GGE;GGO;GGWAA;THA;THU;THI;THAA;THEE;
    THE;THO;THWA;CHA;CHU;CHI;CHAA;CHEE;CHE;CHO;CHWA;PHA;PHU;PHI;PHAA;PHEE;PHE;PHO;PHWA;TSA;TSU;TSI;
    TSAA;TSEE;TSE;TSO;TSWA;TZA;TZU;TZI;TZAA;TZEE;TZE;TZO;TZOA;FA;FU;FI;FAA;FEE;FE;FO;FWA;PA;PU;PI;
    PAA;PEE;PE;PO;PWA;RYA;MYA;FYA/135D ETHIOPIC COMBINING * MARK:GEMINATION AND VOWEL LENGTH;
    VOWEL LENGTH;GEMINATION/1360 ETHIOPIC *:SECTION MARK;WORDSPACE;FULL STOP;COMMA;SEMICOLON;COLON;
    PREFACE COLON;QUESTION MARK;PARAGRAPH SEPARATOR/1369 ETHIOPIC DIGIT *:ONE;TWO;THREE;FOUR;FIVE;
    SIX;SEVEN;EIGHT;NINE/1372 ETHIOPIC NUMBER *:TEN;TWENTY;THIRTY;FORTY;FIFTY;SIXTY;SEVENTY;EIGHTY;
    NINETY;HUNDRED;TEN THOUSAND/1380 ETHIOPIC SYLLABLE *:SEBATBEIT MWA;MWI;MWEE;MWE;SEBATBEIT BWA;
    BWI;BWEE;BWE;SEBATBEIT FWA;FWI;FWEE;FWE;SEBATBEIT PWA;PWI;PWEE;PWE/1390 ETHIOPIC TONAL MARK *:
    YIZET;DERET;RIKRIK;SHORT RIKRIK;DIFAT;KENAT;CHIRET;HIDET;DERET-HIDET;KURT/
    13A0 CHEROKEE LETTER *:A;E;I;O;U;V;GA;KA;GE;GI;GO;GU;GV;HA;HE;HI;HO;HU;HV;LA;LE;LI;LO;LU;LV;MA;
    ME;MI;MO;MU;NA;HNA;NAH;NE;NI;NO;NU;NV;QUA;QUE;QUI;QUO;QUU;QUV;SA;S;SE;SI;SO;SU;SV;DA;TA;DE;TE;
    DI;TI;DO;DU;DV;DLA;TLA;TLE;TLI;TLO;TLU;TLV;TSA;TSE;TSI;TSO;TSU;TSV;WA;WE;WI;WO;WU;WV;YA;YE;YI;
    YO;YU;YV;MV/13F8 CHEROKEE SMALL LETTER *:YE;YI;YO;YU;YV;MV/1400 CANADIAN SYLLABICS *:HYPHEN;E;
    AAI;I;II;O;OO;Y-CREE OO;CARRIER EE;CARRIER I;A;AA;WE;WEST-CREE WE;WI;WEST-CREE WI;WII;
    WEST-CREE WII;WO;WEST-CREE WO;WOO;WEST-CREE WOO;NASKAPI WOO;WA;WEST-CREE WA;WAA;WEST-CREE WAA;
    NASKAPI WAA;AI;Y-CREE W;GLOTTAL STOP/141F CANADIAN SYLLABICS FINAL *:ACUTE;GRAVE;
    BOTTOM HALF RING;TOP HALF RING;RIGHT HALF RING;RING;DOUBLE ACUTE;DOUBLE SHORT VERTICAL STROKES;
    MIDDLE DOT;SHORT HORIZONTAL STROKE;PLUS;DOWN TACK/142B CANADIAN SYLLABICS *:EN;IN;ON;AN;PE;
    PAAI;PI;PII;PO;POO;Y-CREE POO;CARRIER HEE;CARRIER HI;PA;PAA/143A CANADIAN SYLLABICS *|
    CANADIAN SYLLABICS WEST-CREE *:PWE;PWI;PWII;PWO;PWOO;PWA;PWAA/1448 CANADIAN SYLLABICS *:
    Y-CREE PWAA;P;WEST-CREE P;CARRIER H;TE;TAAI;TI;TII;TO;TOO;Y-CREE TOO;CARRIER DEE;CARRIER DI;TA;
    TAA/1457 CANADIAN SYLLABICS *|CANADIAN SYLLABICS WEST-CREE *:TWE;TWI;TWII;TWO;TWOO;TWA;TWAA/
    1465 CANADIAN SYLLABICS *:NASKAPI TWAA;T;TTE;TTI;TTO;TTA;KE;KAAI;KI;KII;KO;KOO;Y-CREE KOO;KA;
    KAA/1474 CANADIAN SYLLABICS *|CANADIAN SYLLABICS WEST-CREE *:KWE;KWI;KWII;KWO;KWOO;KWA;KWAA/
    1482 CANADIAN SYLLABICS *:NASKAPI KWAA;K;KW;SOUTH-SLAVEY KEH;SOUTH-SLAVEY KIH;SOUTH-SLAVEY KOH;
    SOUTH-SLAVEY KAH;CE;CAAI;CI;CII;CO;COO;Y-CREE COO;CA;CAA/1492 CANADIAN SYLLABICS *|
    CANADIAN SYLLABICS WEST-CREE *:CWE;CWI;CWII;CWO;CWOO;CWA;CWAA/14A0 CANADIAN SYLLABICS *:
    NASKAPI CWAA;C;SAYISI TH;ME;MAAI;MI;MII;MO;MOO;Y-CREE MOO;MA;MAA/14AC CANADIAN SYLLABICS *|
    CANADIAN SYLLABICS WEST-CREE *:MWE;MWI;MWII;MWO;MWOO;MWA;MWAA/14BA CANADIAN SYLLABICS *:
    NASKAPI MWAA;M;WEST-CREE M;MH;ATHAPASCAN M;SAYISI M;NE;NAAI;NI;NII;NO;NOO;Y-CREE NOO;NA;NAA;
    NWE;WEST-CREE NWE;NWA;WEST-CREE NWA;NWAA;WEST-CREE NWAA;NASKAPI NWAA;N;CARRIER NG;NH;LE;LAAI;
    LI;LII;LO;LOO;Y-CREE LOO;LA;LAA/14DC CANADIAN SYLLABICS *|CANADIAN SYLLABICS WEST-CREE *:LWE;
    LWI;LWII;LWO;LWOO;LWA;LWAA;L/14EC CANADIAN SYLLABICS *:MEDIAL L;SE;SAAI;SI;SII;SO;SOO;
    Y-CREE SOO;SA;SAA/14F6 CANADIAN SYLLABICS *|CANADIAN SYLLABICS WEST-CREE *:SWE;SWI;SWII;SWO;
    SWOO;SWA;SWAA/1504 CANADIAN SYLLABICS *:NASKAPI SWAA;S;ATHAPASCAN S;SW;BLACKFOOT S;
    MOOSE-CREE SK;NASKAPI SKW;NASKAPI S-W;NASKAPI SPWA;NASKAPI STWA;NASKAPI SKWA;NASKAPI SCWA;SHE;
    SHI;SHII;SHO;SHOO;SHA;SHAA/1517 CANADIAN SYLLABICS *|CANADIAN SYLLABICS WEST-CREE *:SHWE;SHWI;
    SHWII;SHWO;SHWOO;SHWA;SHWAA/1525 CANADIAN SYLLABICS *:SH;YE;YAAI;YI;YII;YO;YOO;Y-CREE YOO;YA;
    YAA/152F CANADIAN SYLLABICS *|CANADIAN SYLLABICS WEST-CREE *:YWE;YWI;YWII;YWO;YWOO;YWA;YWAA/
    153D CANADIAN SYLLABICS *:NASKAPI YWAA;Y;BIBLE-CREE Y;WEST-CREE Y;SAYISI YI;RE;R-CREE RE;
    WEST-CREE LE;RAAI;RI;RII;RO;ROO;WEST-CREE LO;RA;RAA;WEST-CREE LA;RWAA;WEST-CREE RWAA;R;
    WEST-CREE R;MEDIAL R;FE;FAAI;FI;FII;FO;FOO;FA;FAA;FWAA;WEST-CREE FWAA;F;THE;N-CREE THE;THI;
    N-CREE THI;THII;N-CREE THII;THO;THOO;THA;THAA;THWAA;WEST-CREE THWAA;TH;TTHE;TTHI;TTHO;TTHA;TTH;
    TYE;TYI;TYO;TYA;NUNAVIK HE;NUNAVIK HI;NUNAVIK HII;NUNAVIK HO;NUNAVIK HOO;NUNAVIK HA;
    NUNAVIK HAA;NUNAVIK H;NUNAVUT H;HK;QAAI;QI;QII;QO;QOO;QA;QAA;Q;TLHE;TLHI;TLHO;TLHA;
    WEST-CREE RE;WEST-CREE RI;WEST-CREE RO;WEST-CREE RA;NGAAI;NGI;NGII;NGO;NGOO;NGA;NGAA;NG;NNG;
    SAYISI SHE;SAYISI SHI;SAYISI SHO;SAYISI SHA;WOODS-CREE THE;WOODS-CREE THI;WOODS-CREE THO;
    WOODS-CREE THA;WOODS-CREE TH;LHI;LHII;LHO;LHOO;LHA;LHAA;LH/15A7 CANADIAN SYLLABICS TH-CREE *:
    THE;THI;THII;THO;THOO;THA;THAA;TH/15AF:CANADIAN SYLLABICS AIVILIK B/
    15B0 CANADIAN SYLLABICS BLACKFOOT *:E;I;O;A;WE;WI;WO;WA;NE;NI;NO;NA;KE;KI;KO;KA/
    15C0 CANADIAN SYLLABICS SAYISI *:HE;HI;HO;HA/15C4 CANADIAN SYLLABICS CARRIER *:GHU;GHO;GHE;
    GHEE;GHI;GHA;RU;RO;RE;REE;RI;RA;WU;WO;WE;WEE;WI;WA;HWU;HWO;HWE;HWEE;HWI;HWA;THU;THO;THE;THEE;
    THI;THA;TTU;TTO;TTE;TTEE;TTI;TTA;PU;PO;PE;PEE;PI;PA;P;GU;GO;GE;GEE;GI;GA;KHU;KHO;KHE;KHEE;KHI;
    KHA;KKU;KKO;KKE;KKEE;KKI;KKA;KK;NU;NO;NE;NEE;NI;NA;MU;MO;ME;MEE;MI;MA;YU;YO;YE;YEE;YI;YA;JU/
    1615 CANADIAN SYLLABICS *:SAYISI JU;CARRIER JO;CARRIER JE;CARRIER JEE;CARRIER JI;SAYISI JI/
    161B CANADIAN SYLLABICS CARRIER *:JA;JJU;JJO;JJE;JJEE;JJI;JJA;LU;LO;LE;LEE;LI;LA;DLU;DLO;DLE;
    DLEE;DLI;DLA;LHU;LHO;LHE;LHEE;LHI;LHA;TLHU;TLHO;TLHE;TLHEE;TLHI;TLHA;TLU;TLO;TLE;TLEE;TLI;TLA;
    ZU;ZO;ZE;ZEE;ZI;ZA;Z;INITIAL Z;DZU;DZO;DZE;DZEE;DZI;DZA;SU;SO;SE;SEE;SI;SA;SHU;SHO;SHE;SHEE;
    SHI;SHA;SH;TSU;TSO;TSE;TSEE;TSI;TSA;CHU;CHO;CHE;CHEE;CHI;CHA;TTSU;TTSO;TTSE;TTSEE;TTSI;TTSA/
    166D CANADIAN SYLLABICS *:CHI SIGN;FULL STOP;QAI;NGAI;NNGI;NNGII;NNGO;NNGOO;NNGA;NNGAA/
    1677 CANADIAN SYLLABICS WOODS-CREE *:THWEE;THWI;THWII;THWO;THWOO;THWA;THWAA;FINAL TH/
    167F:CANADIAN SYLLABICS BLACKFOOT W;OGHAM SPACE MARK/1681 OGHAM LETTER *:BEITH;LUIS;FEARN;SAIL;
    NION;UATH;DAIR;TINNE;COLL;CEIRT;MUIN;GORT;NGEADAL;STRAIF;RUIS;AILM;ONN;UR;EADHADH;IODHADH;
    EABHADH;OR;UILLEANN;IFIN;EAMHANCHOLL;PEITH/169B OGHAM * MARK:FEATHER;REVERSED FEATHER/
    16A0 RUNIC LETTER *:FEHU FEOH FE F;V;URUZ UR U;YR;Y;W;THURISAZ THURS THORN;ETH;ANSUZ A;OS O;
    AC A;AESC;LONG-BRANCH-OSS O;SHORT-TWIG-OSS O;O;OE;ON;RAIDO RAD REID R;KAUNA;CEN;KAUN K;G;ENG;
    GEBO GYFU G;GAR;WUNJO WYNN W;HAGLAZ H;HAEGL H;LONG-BRANCH-HAGALL H;SHORT-TWIG-HAGALL H;
    NAUDIZ NYD NAUD N;SHORT-TWIG-NAUD N;DOTTED-N;ISAZ IS ISS I;E;JERAN J;GER;LONG-BRANCH-AR AE;
    SHORT-TWIG-AR A;IWAZ EOH;PERTHO PEORTH P;ALGIZ EOLHX;SOWILO S;SIGEL LONG-BRANCH-SOL S;
    SHORT-TWIG-SOL S;C;Z;TIWAZ TIR TYR T;SHORT-TWIG-TYR T;D;BERKANAN BEORC BJARKAN B;
    SHORT-TWIG-BJARKAN B;DOTTED-P;OPEN-P;EHWAZ EH E;MANNAZ MAN M;LONG-BRANCH-MADR M;
    SHORT-TWIG-MADR M;LAUKAZ LAGU LOGR L;DOTTED-L;INGWAZ;ING;DAGAZ DAEG D;OTHALAN ETHEL O;EAR;IOR;
    CWEORTH;CALC;CEALC;STAN;LONG-BRANCH-YR;SHORT-TWIG-YR;ICELANDIC-YR;Q;X/16EB RUNIC * PUNCTUATION:
    SINGLE;MULTIPLE;CROSS/16EE RUNIC * SYMBOL:ARLAUG;TVIMADUR;BELGTHOR/16F1 RUNIC LETTER *:K;SH;OO/
    16F4 RUNIC LETTER FRANKS CASKET *:OS;IS;EH;AC;AESC/1700 TAGALOG LETTER *:A;I;U;KA;GA;NGA;TA;DA;
    NA;PA;BA;MA;YA;RA;LA;WA;SA;HA/1712 TAGALOG *:VOWEL SIGN I;VOWEL SIGN U;SIGN VIRAMA;
    SIGN PAMUDPOD/171F:TAGALOG LETTER ARCHAIC RA/1720 HANUNOO LETTER *:A;I;U;KA;GA;NGA;TA;DA;NA;PA;
    BA;MA;YA;RA;LA;WA;SA;HA/1732 HANUNOO *:VOWEL SIGN I;VOWEL SIGN U;SIGN PAMUDPOD/
    1735 PHILIPPINE * PUNCTUATION:SINGLE;DOUBLE/1740 BUHID LETTER *:A;I;U;KA;GA;NGA;TA;DA;NA;PA;BA;
    MA;YA;RA;LA;WA;SA;HA/1752 BUHID VOWEL SIGN *:I;U/1760 TAGBANWA LETTER *:A;I;U;KA;GA;NGA;TA;DA;
    NA;PA;BA;MA;YA/176E TAGBANWA LETTER *:LA;WA;SA/1772 TAGBANWA VOWEL SIGN *:I;U/
    1780 KHMER LETTER *:KA;KHA;KO;KHO;NGO;CA;CHA;CO;CHO;NYO;DA;TTHA;DO;TTHO;NNO;TA;THA;TO;THO;NO;
    BA;PHA;PO;PHO;MO;YO;RO;LO;VO;SHA;SSO;SA;HA;LA;QA/17A3 KHMER INDEPENDENT VOWEL *:QAQ;QAA;QI;QII;
    QU;QUK;QUU;QUUV;RY;RYY;LY;LYY;QE;QAI;QOO TYPE ONE;QOO TYPE TWO;QAU/17B4 KHMER VOWEL INHERENT *:
    AQ;AA/17B6 KHMER VOWEL SIGN *:AA;I;II;Y;YY;U;UU;UA;OE;YA;IE;E;AE;AI;OO;AU/17C6 KHMER SIGN *:
    NIKAHIT;REAHMUK;YUUKALEAPINTU;MUUSIKATOAN;TRIISAP;BANTOC;ROBAT;TOANDAKHIAT;KAKABAT;AHSDA;
    SAMYOK SANNYA;VIRIAM;COENG;BATHAMASAT;KHAN;BARIYOOSAN;CAMNUC PII KUUH;LEK TOO;BEYYAL;
    PHNAEK MUAN;KOOMUUT/17DB KHMER *:CURRENCY SYMBOL RIEL;SIGN AVAKRAHASANYA;SIGN ATTHACAN/
    17E0 KHMER DIGIT *:ZERO;ONE;TWO;THREE;FOUR;FIVE;SIX;SEVEN;EIGHT;NINE/
    17F0 KHMER SYMBOL LEK ATTAK *:SON;MUOY;PII;BEI;BUON;PRAM;PRAM-MUOY;PRAM-PII;PRAM-BEI;PRAM-BUON/
    1800 MONGOLIAN *:BIRGA;ELLIPSIS;COMMA;FULL STOP;COLON;FOUR DOTS;TODO SOFT HYPHEN;
    SIBE SYLLABLE BOUNDARY MARKER;MANCHU COMMA;MANCHU FULL STOP;NIRUGU/
    180B MONGOLIAN FREE VARIATION SELECTOR *:ONE;TWO;THREE/180E MONGOLIAN *:VOWEL SEPARATOR;
    FREE VARIATION SELECTOR FOUR/1810 MONGOLIAN DIGIT *:ZERO;ONE;TWO;THREE;FOUR;FIVE;SIX;SEVEN;
    EIGHT;NINE/1820 MONGOLIAN LETTER *:A;E;I;O;U;OE;UE;EE;NA;ANG;BA;PA;QA;GA;MA;LA;SA;SHA;TA;DA;
    CHA;JA;YA;RA;WA;FA;KA;KHA;TSA;ZA;HAA;ZRA;LHA;ZHI;CHI/1843 MONGOLIAN LETTER TODO *:
    LONG VOWEL SIGN;E;I;O;U;OE;UE;ANG;BA;PA;QA;GA;MA;TA;DA;CHA;JA;TSA;YA;WA;KA;GAA;HAA;JIA;NIA;DZA/
    185D MONGOLIAN LETTER SIBE *:E;I;IY;UE;U;ANG;KA;GA;HA;PA;SHA;TA;DA;JA;FA;GAA;HAA;TSA;ZA;RAA;
    CHA;ZHA/1873 MONGOLIAN LETTER MANCHU *:I;KA;RA;FA;ZHA/1878:MONGOLIAN LETTER CHA WITH TWO DOTS/
    1880 MONGOLIAN LETTER ALI GALI *:ANUSVARA ONE;VISARGA ONE;DAMARU;UBADAMA;INVERTED UBADAMA;
    BALUDA;THREE BALUDA;A;I;KA;NGA;CA;TTA;TTHA;DDA;NNA;TA;DA;PA;PHA;SSA;ZHA;ZA;AH/
    1898 MONGOLIAN LETTER TODO ALI GALI *:TA;ZHA/189A MONGOLIAN LETTER MANCHU ALI GALI *:GHA;NGA;
    CA;JHA;TTA;DDHA;TA;DHA;SSA;CYA;ZHA;ZA/18A6 MONGOLIAN LETTER *:ALI GALI HALF U;ALI GALI HALF YA;
    MANCHU ALI GALI BHA;ALI GALI DAGALGA;MANCHU ALI GALI LHA/18B0 CANADIAN SYLLABICS *:OY;AY;AAY;
    WAY;POY;PAY;PWOY;TAY;KAY;KWAY;MAY;NOY;NAY;LAY;SOY;SAY;SHOY;SHAY;SHWOY;YOY;YAY;RAY;NWI;
    OJIBWAY NWI;NWII;OJIBWAY NWII;NWO;OJIBWAY NWO;NWOO;OJIBWAY NWOO;RWEE;RWI;RWII;RWO;RWOO;RWA;
    OJIBWAY P;OJIBWAY T;OJIBWAY K;OJIBWAY C;OJIBWAY M;OJIBWAY N;OJIBWAY S;OJIBWAY SH;EASTERN W;
    WESTERN W;FINAL SMALL RING;FINAL RAISED DOT;R-CREE RWE;WEST-CREE LOO;WEST-CREE LAA;THWE;THWA;
    TTHWE;TTHOO;TTHAA;TLHWE;TLHOO;SAYISI SHWE;SAYISI SHOO;SAYISI HOO;CARRIER GWU;CARRIER DENE GEE;
    CARRIER GAA;CARRIER GWA;SAYISI JUU;CARRIER JWA;BEAVER DENE L;BEAVER DENE R;CARRIER DENTAL S/
    1900:LIMBU VOWEL-CARRIER LETTER/1901 LIMBU LETTER *:KA;KHA;GA;GHA;NGA;CA;CHA;JA;JHA;YAN;TA;THA;
    DA;DHA;NA;PA;PHA;BA;BHA;MA;YA;RA;LA;WA;SHA;SSA;SA;HA;GYAN;TRA/1920 LIMBU VOWEL SIGN *:A;I;U;EE;
    AI;OO;AU;E;O/1929 LIMBU SUBJOINED LETTER *:YA;RA;WA/1930 LIMBU SMALL LETTER *:KA;NGA;ANUSVARA;
    TA;NA;PA;MA;RA;LA/1939 LIMBU SIGN *:MUKPHRENG;KEMPHRENG;SA-I/1940:LIMBU SIGN LOO/
    1944 LIMBU * MARK:EXCLAMATION;QUESTION/1946 LIMBU DIGIT *:ZERO;ONE;TWO;THREE;FOUR;FIVE;SIX;
    SEVEN;EIGHT;NINE/1950 TAI LE LETTER *:KA;XA;NGA;TSA;SA;YA;TA;THA;LA;PA;PHA;MA;FA;VA;HA;QA;KHA;
    TSHA;NA;A;I;EE;EH;U;OO;O;UE;E;AUE;AI/1970 TAI LE LETTER TONE-*:2;3;4;5;6/
    1980 NEW TAI LUE LETTER *:HIGH QA;LOW QA;HIGH KA;HIGH XA;HIGH NGA;LOW KA;LOW XA;LOW NGA;
    HIGH TSA;HIGH SA;HIGH YA;LOW TSA;LOW SA;LOW YA;HIGH TA;HIGH THA;HIGH NA;LOW TA;LOW THA;LOW NA;
    HIGH PA;HIGH PHA;HIGH MA;LOW PA;LOW PHA;LOW MA;HIGH FA;HIGH VA;HIGH LA;LOW FA;LOW VA;LOW LA;
    HIGH HA;HIGH DA;HIGH BA;LOW HA;LOW DA;LOW BA;HIGH KVA;HIGH XVA;LOW KVA;LOW XVA;HIGH SUA;
    LOW SUA/19B0 NEW TAI LUE VOWEL SIGN *:VOWEL SHORTENER;AA;II;U;UU;E;AE;O;OA;UE;AY;AAY;UY;OY;OAY;
    UEY;IY/19C1 NEW TAI LUE LETTER FINAL *:V;NG;N;M;K;D;B/19C8 NEW TAI LUE TONE MARK-*:1;2/
    19D0 NEW TAI LUE DIGIT *:ZERO;ONE;TWO;THREE;FOUR;FIVE;SIX;SEVEN;EIGHT;NINE/
    19DA:NEW TAI LUE THAM DIGIT ONE/19DE NEW TAI LUE SIGN *:LAE;LAEV/19E0:KHMER SYMBOL PATHAMASAT/
    19E1 KHMER SYMBOL * KOET:MUOY;PII;BEI;BUON;PRAM;PRAM-MUOY;PRAM-PII;PRAM-BEI;PRAM-BUON;DAP;
    DAP-MUOY;DAP-PII;DAP-BEI;DAP-BUON;DAP-PRAM/19F0:KHMER SYMBOL TUTEYASAT/19F1 KHMER SYMBOL * ROC:
    MUOY;PII;BEI;BUON;PRAM;PRAM-MUOY;PRAM-PII;PRAM-BEI;PRAM-BUON;DAP;DAP-MUOY;DAP-PII;DAP-BEI;
    DAP-BUON;DAP-PRAM/1A00 BUGINESE LETTER *:KA;GA;NGA;NGKA;PA;BA;MA;MPA;TA;DA;NA;NRA;CA;JA;NYA;
    NYCA;YA;RA;LA;VA;SA;A;HA/1A17 BUGINESE VOWEL SIGN *:I;U;E;O;AE/1A1E BUGINESE *:PALLAWA;
    END OF SECTION/1A20 TAI THAM LETTER *:HIGH KA;HIGH KHA;HIGH KXA;LOW KA;LOW KXA;LOW KHA;NGA;
    HIGH CA;HIGH CHA;LOW CA;LOW SA;LOW CHA;NYA;RATA;HIGH RATHA;DA;LOW RATHA;RANA;HIGH TA;HIGH THA;
    LOW TA;LOW THA;NA;BA;HIGH PA;HIGH PHA;HIGH FA;LOW PA;LOW FA;LOW PHA;MA;LOW YA;HIGH YA;RA;RUE;
    LA;LUE;WA;HIGH SHA;HIGH SSA;HIGH SA;HIGH HA;LLA;A;LOW HA;I;II;U;UU;EE;OO;LAE;GREAT SA/
    1A55 TAI THAM CONSONANT SIGN *:MEDIAL RA;MEDIAL LA;LA TANG LAI/1A58:TAI THAM SIGN MAI KANG LAI/
    1A59 TAI THAM CONSONANT SIGN *:FINAL NGA;LOW PA;HIGH RATHA OR LOW PA;MA;BA;SA/
    1A60:TAI THAM SIGN SAKOT/1A61 TAI THAM VOWEL SIGN *:A;MAI SAT;AA;TALL AA;I;II;UE;UUE;U;UU;O;
    OA BELOW;OY;E;AE;OO;AI;THAM AI;OA ABOVE/1A74 TAI THAM SIGN *:MAI KANG;TONE-1;TONE-2;
    KHUEN TONE-3;KHUEN TONE-4;KHUEN TONE-5;RA HAAM;MAI SAM;KHUEN-LUE KARAN/
    1A7F:TAI THAM COMBINING CRYPTOGRAMMIC DOT/1A80 TAI THAM HORA DIGIT *:ZERO;ONE;TWO;THREE;FOUR;
    FIVE;SIX;SEVEN;EIGHT;NINE/1A90 TAI THAM THAM DIGIT *:ZERO;ONE;TWO;THREE;FOUR;FIVE;SIX;SEVEN;
    EIGHT;NINE/1AA0 TAI THAM SIGN *:WIANG;WIANGWAAK;SAWAN;KEOW;HOY;DOKMAI;REVERSED ROTATED RANA;
    MAI YAMOK;KAAN;KAANKUU;SATKAAN;SATKAANKUU;HANG;CAANG/1AB0 COMBINING *:
    DOUBLED CIRCUMFLEX ACCENT;DIAERESIS-RING;INFINITY;DOWNWARDS ARROW;TRIPLE DOT;X-X BELOW;
    WIGGLY LINE BELOW;OPEN MARK BELOW;DOUBLE OPEN MARK BELOW;LIGHT CENTRALIZATION STROKE BELOW;
    STRONG CENTRALIZATION STROKE BELOW;PARENTHESES ABOVE;DOUBLE PARENTHESES ABOVE;
    PARENTHESES BELOW;PARENTHESES OVERLAY/1ABF COMBINING LATIN SMALL LETTER * BELOW:W;TURNED W/
    1AC1 COMBINING LEFT PARENTHESIS * LEFT|COMBINING RIGHT PARENTHESIS * RIGHT:ABOVE;BELOW/
    1AC5 COMBINING * ABOVE:SQUARE BRACKETS;NUMBER SIGN;INVERTED DOUBLE ARCH;PLUS SIGN;
    DOUBLE PLUS SIGN/1ACA COMBINING *:DOUBLE PLUS SIGN BELOW;TRIPLE ACUTE ACCENT/
    1ACC COMBINING LATIN SMALL LETTER INSULAR *:G;R;T/1B00 BALINESE SIGN *:ULU RICEM;ULU CANDRA;
    CECEK;SURANG;BISAH/1B05 BALINESE LETTER *:AKARA;AKARA TEDUNG;IKARA;IKARA TEDUNG;UKARA;
    UKARA TEDUNG;RA REPA;RA REPA TEDUNG;LA LENGA;LA LENGA TEDUNG;EKARA;AIKARA;OKARA;OKARA TEDUNG;
    KA;KA MAHAPRANA;GA;GA GORA;NGA;CA;CA LACA;JA;JA JERA;NYA;TA LATIK;TA MURDA MAHAPRANA;
    DA MURDA ALPAPRANA;DA MURDA MAHAPRANA;NA RAMBAT;TA;TA TAWA;DA;DA MADU;NA;PA;PA KAPAL;BA;
    BA KEMBANG;MA;YA;RA;LA;WA;SA SAGA;SA SAPA;SA;HA/1B34:BALINESE SIGN REREKAN/
    1B35 BALINESE VOWEL SIGN *:TEDUNG;ULU;ULU SARI;SUKU;SUKU ILUT;RA REPA;RA REPA TEDUNG;LA LENGA;
    LA LENGA TEDUNG;TALING;TALING REPA;TALING TEDUNG;TALING REPA TEDUNG;PEPET;PEPET TEDUNG/
    1B44:BALINESE ADEG ADEG/1B45 BALINESE LETTER * SASAK:KAF;KHOT;TZIR;EF;VE;ZAL;ASYURA/
    1B4C:BALINESE LETTER ARCHAIC JNYA/1B50 BALINESE DIGIT *:ZERO;ONE;TWO;THREE;FOUR;FIVE;SIX;SEVEN;
    EIGHT;NINE/1B5A BALINESE *:PANTI;PAMADA;WINDU;CARIK PAMUNGKAH;CARIK SIKI;CARIK PAREREN;
    PAMENENG/1B61 BALINESE MUSICAL SYMBOL *:DONG;DENG;DUNG;DANG;DANG SURANG;DING;DAENG;DEUNG;DAING;
    DANG GEDE/1B6B BALINESE MUSICAL SYMBOL COMBINING *:TEGEH;ENDEP;KEMPUL;KEMPLI;JEGOGAN;
    KEMPUL WITH JEGOGAN;KEMPLI WITH JEGOGAN;BENDE;GONG/1B74 BALINESE MUSICAL SYMBOL RIGHT-HAND *:
    OPEN DUG;OPEN DAG;CLOSED TUK;CLOSED TAK/1B78 BALINESE MUSICAL SYMBOL LEFT-HAND *:OPEN PANG;
    OPEN PUNG;CLOSED PLAK;CLOSED PLUK;OPEN PING/1B7D BALINESE * LANTANG:PANTI;PAMADA/
    1B80 SUNDANESE SIGN *:PANYECEK;PANGLAYAR;PANGWISAD/1B83 SUNDANESE LETTER *:A;I;U;AE;O;E;EU;KA;
    QA;GA;NGA;CA;JA;ZA;NYA;TA;DA;NA;PA;FA;VA;BA;MA;YA;RA;LA;WA;SA;XA;HA/
    1BA1 SUNDANESE CONSONANT SIGN *:PAMINGKAL;PANYAKRA;PANYIKU/1BA4 SUNDANESE VOWEL SIGN *:
    PANGHULU;PANYUKU;PANAELAENG;PANOLONG;PAMEPET;PANEULEUNG/1BAA SUNDANESE *:SIGN PAMAAEH;
    SIGN VIRAMA;CONSONANT SIGN PASANGAN MA;CONSONANT SIGN PASANGAN WA;LETTER KHA;LETTER SYA/
    1BB0 SUNDANESE DIGIT *:ZERO;ONE;TWO;THREE;FOUR;FIVE;SIX;SEVEN;EIGHT;NINE/
    1BBA:SUNDANESE AVAGRAHA/1BBB SUNDANESE LETTER *:REU;LEU;BHA;FINAL K;FINAL M/
    1BC0 BATAK LETTER *:A;SIMALUNGUN A;HA;SIMALUNGUN HA;MANDAILING HA;BA;KARO BA;PA;SIMALUNGUN PA;
    NA;MANDAILING NA;WA;SIMALUNGUN WA;PAKPAK WA;GA;SIMALUNGUN GA;JA;DA;RA;SIMALUNGUN RA;MA;
    SIMALUNGUN MA;SOUTHERN TA;NORTHERN TA;SA;SIMALUNGUN SA;MANDAILING SA;YA;SIMALUNGUN YA;NGA;LA;
    SIMALUNGUN LA;NYA;CA;NDA;MBA;I;U/1BE6:BATAK SIGN TOMPI/1BE7 BATAK VOWEL SIGN *:E;PAKPAK E;EE;I;
    KARO I;O;KARO O;U;U FOR SIMALUNGUN SA/1BF0 BATAK *:CONSONANT SIGN NG;CONSONANT SIGN H;PANGOLAT;
    PANONGONAN/1BFC BATAK SYMBOL BINDU *:NA METEK;PINARBORAS;JUDUL;PANGOLAT/1C00 LEPCHA LETTER *:
    KA;KLA;KHA;GA;GLA;NGA;CA;CHA;JA;NYA;TA;THA;DA;NA;PA;PLA;PHA;FA;FLA;BA;BLA;MA;MLA;TSA;TSHA;DZA;
    YA;RA;LA;HA;HLA;VA;SA;SHA;WA;A/1C24 LEPCHA SUBJOINED LETTER *:YA;RA/1C26 LEPCHA VOWEL SIGN *:
    AA;I;O;OO;U;UU;E/1C2D LEPCHA CONSONANT SIGN *:K;M;L;N;P;R;T;NYIN-DO;KANG/1C36 LEPCHA SIGN *:
    RAN;NUKTA/1C3B LEPCHA PUNCTUATION *:TA-ROL;NYET THYOOM TA-ROL;CER-WA;TSHOOK CER-WA;TSHOOK/
    1C40 LEPCHA DIGIT *:ZERO;ONE;TWO;THREE;FOUR;FIVE;SIX;SEVEN;EIGHT;NINE/1C4D LEPCHA LETTER *:TTA;
    TTHA;DDA/1C50 OL CHIKI DIGIT *:ZERO;ONE;TWO;THREE;FOUR;FIVE;SIX;SEVEN;EIGHT;NINE/
    1C5A OL CHIKI LETTER *:LA;AT;AG;ANG;AL;LAA;AAK;AAJ;AAM;AAW;LI;IS;IH;INY;IR;LU;UC;UD;UNN;UY;LE;
    EP;EDD;EN;ERR;LO;OTT;OB;OV;OH/1C78 OL CHIKI *:MU TTUDDAG;GAAHLAA TTUDDAAG;MU-GAAHLAA TTUDDAAG;
    RELAA;PHAARKAA;AHAD;PUNCTUATION MUCAAD;PUNCTUATION DOUBLE MUCAAD/1C80 CYRILLIC SMALL LETTER *:
    ROUNDED VE;LONG-LEGGED DE;NARROW O;WIDE ES;TALL TE;THREE-LEGGED TE;TALL HARD SIGN;TALL YAT;
    UNBLENDED UK/1C90 GEORGIAN MTAVRULI CAPITAL LETTER *:AN;BAN;GAN;DON;EN;VIN;ZEN;TAN;IN;KAN;LAS;
    MAN;NAR;ON;PAR;ZHAR;RAE;SAN;TAR;UN;PHAR;KHAR;GHAN;QAR;SHIN;CHIN;CAN;JIL;CIL;CHAR;XAN;JHAN;HAE;
    HE;HIE;WE;HAR;HOE;FI;YN;ELIFI;TURNED GAN;AIN/1CBD GEORGIAN MTAVRULI CAPITAL LETTER *:AEN;
    HARD SIGN;LABIAL SIGN/1CC0 SUNDANESE PUNCTUATION BINDU *:SURYA;PANGLONG;PURNAMA;CAKRA;
    LEU SATANGA;KA SATANGA;DA SATANGA;BA SATANGA/1CD0 VEDIC *:TONE KARSHANA;TONE SHARA;
    TONE PRENKHA;SIGN NIHSHVASA;SIGN YAJURVEDIC MIDLINE SVARITA/
    1CD5 VEDIC TONE YAJURVEDIC * SVARITA:AGGRAVATED INDEPENDENT;INDEPENDENT;KATHAKA INDEPENDENT/
    1CD8 VEDIC TONE *:CANDRA BELOW;YAJURVEDIC KATHAKA INDEPENDENT SVARITA SCHROEDER;DOUBLE SVARITA;
    TRIPLE SVARITA;KATHAKA ANUDATTA;DOT BELOW;TWO DOTS BELOW;THREE DOTS BELOW;
    RIGVEDIC KASHMIRI INDEPENDENT SVARITA;ATHARVAVEDIC INDEPENDENT SVARITA/1CE2 VEDIC SIGN *:
    VISARGA SVARITA;VISARGA UDATTA;REVERSED VISARGA UDATTA;VISARGA ANUDATTA;
    REVERSED VISARGA ANUDATTA;VISARGA UDATTA WITH TAIL;VISARGA ANUDATTA WITH TAIL;
    ANUSVARA ANTARGOMUKHA;ANUSVARA BAHIRGOMUKHA;ANUSVARA VAMAGOMUKHA;
    ANUSVARA VAMAGOMUKHA WITH TAIL;TIRYAK;HEXIFORM LONG ANUSVARA;LONG ANUSVARA;
    RTHANG LONG ANUSVARA;ANUSVARA UBHAYATO MUKHA;ARDHAVISARGA;ROTATED ARDHAVISARGA/1CF4 VEDIC *:
    TONE CANDRA ABOVE;SIGN JIHVAMULIYA;SIGN UPADHMANIYA;SIGN ATIKRAMA;TONE RING ABOVE;
    TONE DOUBLE RING ABOVE;SIGN DOUBLE ANUSVARA ANTARGOMUKHA/1D00 LATIN LETTER SMALL CAPITAL *:A;
    AE/1D02:LATIN SMALL LETTER TURNED AE/1D03 LATIN LETTER SMALL CAPITAL *:BARRED B;C;D;ETH;E/
    1D08 LATIN SMALL LETTER TURNED *:OPEN E;I/1D0A LATIN LETTER SMALL CAPITAL *:J;K;L WITH STROKE;
    M;REVERSED N;O;OPEN O/1D11 LATIN SMALL LETTER SIDEWAYS *:O;OPEN O;O WITH STROKE/1D14 LATIN *:
    SMALL LETTER TURNED OE;LETTER SMALL CAPITAL OU/1D16 LATIN SMALL LETTER * HALF O:TOP;BOTTOM/
    1D18 LATIN LETTER SMALL CAPITAL *:P;REVERSED R;TURNED R;T;U/1D1D LATIN SMALL LETTER SIDEWAYS *:
    U;DIAERESIZED U;TURNED M/1D20 LATIN LETTER SMALL CAPITAL *:V;W;Z;EZH/1D24 LATIN LETTER *:
    VOICED LARYNGEAL SPIRANT;AIN/1D26 GREEK LETTER SMALL CAPITAL *:GAMMA;LAMDA;PI;RHO;PSI/
    1D2B:CYRILLIC LETTER SMALL CAPITAL EL/1D2C MODIFIER LETTER CAPITAL *:A;AE;B;BARRED B;D;E;
    REVERSED E;G;H;I;J;K;L;M;N;REVERSED N;O;OU;P;R;T;U;W/1D43 MODIFIER LETTER SMALL *:A;TURNED A;
    ALPHA;TURNED AE;B;D;E;SCHWA;OPEN E;TURNED OPEN E;G;TURNED I;K;M;ENG;O;OPEN O;TOP HALF O;
    BOTTOM HALF O;P;T;U;SIDEWAYS U;TURNED M;V;AIN;BETA;GREEK GAMMA;DELTA;GREEK PHI;CHI/
    1D62 LATIN SUBSCRIPT SMALL LETTER *:I;R;U;V/1D66 GREEK SUBSCRIPT SMALL LETTER *:BETA;GAMMA;RHO;
    PHI;CHI/1D6B:LATIN SMALL LETTER UE/1D6C LATIN SMALL LETTER * MIDDLE TILDE:B WITH;D WITH;F WITH;
    M WITH;N WITH;P WITH;R WITH;R WITH FISHHOOK AND;S WITH;T WITH;Z WITH/
    1D77:LATIN SMALL LETTER TURNED G;MODIFIER LETTER CYRILLIC EN/1D79 LATIN SMALL LETTER *:
    INSULAR G;TH WITH STRIKETHROUGH/1D7B LATIN SMALL * WITH STROKE:CAPITAL LETTER I;LETTER IOTA;
    LETTER P;CAPITAL LETTER U;LETTER UPSILON/1D80 LATIN SMALL LETTER * WITH PALATAL HOOK:B;D;F;G;K;
    L;M;N;P;R;S;ESH;V;X;Z/1D8F LATIN SMALL LETTER *:A WITH RETROFLEX HOOK;
    ALPHA WITH RETROFLEX HOOK;D WITH HOOK AND TAIL/1D92 LATIN SMALL LETTER * WITH RETROFLEX HOOK:E;
    OPEN E;REVERSED OPEN E;SCHWA;I;OPEN O;ESH;U;EZH/1D9B MODIFIER LETTER SMALL *:TURNED ALPHA;C;
    C WITH CURL;ETH;REVERSED OPEN E;F;DOTLESS J WITH STROKE;SCRIPT G;TURNED H;I WITH STROKE;IOTA;
    CAPITAL I;CAPITAL I WITH STROKE;J WITH CROSSED-TAIL;L WITH RETROFLEX HOOK;L WITH PALATAL HOOK;
    CAPITAL L;M WITH HOOK;TURNED M WITH LONG LEG;N WITH LEFT HOOK;N WITH RETROFLEX HOOK;CAPITAL N;
    BARRED O;PHI;S WITH HOOK;ESH;T WITH PALATAL HOOK;U BAR;UPSILON;CAPITAL U;V WITH HOOK;TURNED V;
    Z;Z WITH RETROFLEX HOOK;Z WITH CURL;EZH;THETA/1DC0 COMBINING *:DOTTED GRAVE ACCENT;
    DOTTED ACUTE ACCENT;SNAKE BELOW;SUSPENSION MARK;MACRON-ACUTE;GRAVE-MACRON;MACRON-GRAVE;
    ACUTE-MACRON;GRAVE-ACUTE-GRAVE;ACUTE-GRAVE-ACUTE;LATIN SMALL LETTER R BELOW;BREVE-MACRON;
    MACRON-BREVE;DOUBLE CIRCUMFLEX ABOVE;OGONEK ABOVE;ZIGZAG BELOW;IS BELOW;UR ABOVE;US ABOVE/
    1DD3 COMBINING LATIN SMALL LETTER *:FLATTENED OPEN A ABOVE;AE;AO;AV;C CEDILLA;INSULAR D;ETH;G/
    1DDB COMBINING LATIN *:LETTER SMALL CAPITAL G;SMALL LETTER K;SMALL LETTER L;
    LETTER SMALL CAPITAL L;LETTER SMALL CAPITAL M;SMALL LETTER N;LETTER SMALL CAPITAL N;
    LETTER SMALL CAPITAL R/1DE3 COMBINING LATIN SMALL LETTER *:R ROTUNDA;S;LONG S;Z;ALPHA;B;BETA;
    SCHWA;F;L WITH DOUBLE MIDDLE TILDE;O WITH LIGHT CENTRALIZATION STROKE;P;ESH;
    U WITH LIGHT CENTRALIZATION STROKE;W;A WITH DIAERESIS;O WITH DIAERESIS;U WITH DIAERESIS/
    1DF5 COMBINING *:UP TACK ABOVE;KAVYKA ABOVE RIGHT;KAVYKA ABOVE LEFT;DOT ABOVE LEFT;
    WIDE INVERTED BRIDGE BELOW;DOT BELOW LEFT;DELETION MARK;DOUBLE INVERTED BREVE BELOW;
    ALMOST EQUAL TO BELOW;LEFT ARROWHEAD ABOVE;RIGHT ARROWHEAD AND DOWN ARROWHEAD BELOW/
    1E00 LATIN CAPITAL LETTER *|LATIN SMALL LETTER *:A WITH RING BELOW;B WITH DOT ABOVE;
    B WITH DOT BELOW;B WITH LINE BELOW;C WITH CEDILLA AND ACUTE;D WITH DOT ABOVE;D WITH DOT BELOW;
    D WITH LINE BELOW;D WITH CEDILLA;D WITH CIRCUMFLEX BELOW;E WITH MACRON AND GRAVE;
    E WITH MACRON AND ACUTE;E WITH CIRCUMFLEX BELOW;E WITH TILDE BELOW;E WITH CEDILLA AND BREVE;
    F WITH DOT ABOVE;G WITH MACRON;H WITH DOT ABOVE;H WITH DOT BELOW;H WITH DIAERESIS;
    H WITH CEDILLA;H WITH BREVE BELOW;I WITH TILDE BELOW;I WITH DIAERESIS AND ACUTE;K WITH ACUTE;
    K WITH DOT BELOW;K WITH LINE BELOW;L WITH DOT BELOW;L WITH DOT BELOW AND MACRON;
    L WITH LINE BELOW;L WITH CIRCUMFLEX BELOW;M WITH ACUTE;M WITH DOT ABOVE;M WITH DOT BELOW;
    N WITH DOT ABOVE;N WITH DOT BELOW;N WITH LINE BELOW;N WITH CIRCUMFLEX BELOW;
    O WITH TILDE AND ACUTE;O WITH TILDE AND DIAERESIS;O WITH MACRON AND GRAVE;
    O WITH MACRON AND ACUTE;P WITH ACUTE;P WITH DOT ABOVE;R WITH DOT ABOVE;R WITH DOT BELOW;
    R WITH DOT BELOW AND MACRON;R WITH LINE BELOW;S WITH DOT ABOVE;S WITH DOT BELOW;
    S WITH ACUTE AND DOT ABOVE;S WITH CARON AND DOT ABOVE;S WITH DOT BELOW AND DOT ABOVE;
    T WITH DOT ABOVE;T WITH DOT BELOW;T WITH LINE BELOW;T WITH CIRCUMFLEX BELOW;
    U WITH DIAERESIS BELOW;U WITH TILDE BELOW;U WITH CIRCUMFLEX BELOW;U WITH TILDE AND ACUTE;
    U WITH MACRON AND DIAERESIS;V WITH TILDE;V WITH DOT BELOW;W WITH GRAVE;W WITH ACUTE;
    W WITH DIAERESIS;W WITH DOT ABOVE;W WITH DOT BELOW;X WITH DOT ABOVE;X WITH DIAERESIS;
    Y WITH DOT ABOVE;Z WITH CIRCUMFLEX;Z WITH DOT BELOW;Z WITH LINE BELOW/
    1E96 LATIN SMALL LETTER *:H WITH LINE BELOW;T WITH DIAERESIS;W WITH RING ABOVE;
    Y WITH RING ABOVE;A WITH RIGHT HALF RING;LONG S WITH DOT ABOVE;LONG S WITH DIAGONAL STROKE;
    LONG S WITH HIGH STROKE/1E9E LATIN *:CAPITAL LETTER SHARP S;SMALL LETTER DELTA/
    1EA0 LATIN CAPITAL LETTER A WITH *|LATIN SMALL LETTER A WITH *:DOT BELOW;HOOK ABOVE;
    CIRCUMFLEX AND ACUTE;CIRCUMFLEX AND GRAVE;CIRCUMFLEX AND HOOK ABOVE;CIRCUMFLEX AND TILDE;
    CIRCUMFLEX AND DOT BELOW;BREVE AND ACUTE;BREVE AND GRAVE;BREVE AND HOOK ABOVE;BREVE AND TILDE;
    BREVE AND DOT BELOW/1EB8 LATIN CAPITAL LETTER *|LATIN SMALL LETTER *:E WITH DOT BELOW;
    E WITH HOOK ABOVE;E WITH TILDE;E WITH CIRCUMFLEX AND ACUTE;E WITH CIRCUMFLEX AND GRAVE;
    E WITH CIRCUMFLEX AND HOOK ABOVE;E WITH CIRCUMFLEX AND TILDE;E WITH CIRCUMFLEX AND DOT BELOW;
    I WITH HOOK ABOVE;I WITH DOT BELOW;O WITH DOT BELOW;O WITH HOOK ABOVE;
    O WITH CIRCUMFLEX AND ACUTE;O WITH CIRCUMFLEX AND GRAVE;O WITH CIRCUMFLEX AND HOOK ABOVE;
    O WITH CIRCUMFLEX AND TILDE;O WITH CIRCUMFLEX AND DOT BELOW;O WITH HORN AND ACUTE;
    O WITH HORN AND GRAVE;O WITH HORN AND HOOK ABOVE;O WITH HORN AND TILDE;
    O WITH HORN AND DOT BELOW;U WITH DOT BELOW;U WITH HOOK ABOVE;U WITH HORN AND ACUTE;
    U WITH HORN AND GRAVE;U WITH HORN AND HOOK ABOVE;U WITH HORN AND TILDE;
    U WITH HORN AND DOT BELOW;Y WITH GRAVE;Y WITH DOT BELOW;Y WITH HOOK ABOVE;Y WITH TILDE;
    MIDDLE-WELSH LL;MIDDLE-WELSH V;Y WITH LOOP/1F00 GREEK SMALL LETTER ALPHA WITH *:PSILI;DASIA;
    PSILI AND VARIA;DASIA AND VARIA;PSILI AND OXIA;DASIA AND OXIA;PSILI AND PERISPOMENI;
    DASIA AND PERISPOMENI/1F08 GREEK CAPITAL LETTER ALPHA WITH *:PSILI;DASIA;PSILI AND VARIA;
    DASIA AND VARIA;PSILI AND OXIA;DASIA AND OXIA;PSILI AND PERISPOMENI;DASIA AND PERISPOMENI/
    1F10 GREEK SMALL LETTER EPSILON WITH *:PSILI;DASIA;PSILI AND VARIA;DASIA AND VARIA;
    PSILI AND OXIA;DASIA AND OXIA/1F18 GREEK CAPITAL LETTER EPSILON WITH *:PSILI;DASIA;
    PSILI AND VARIA;DASIA AND VARIA;PSILI AND OXIA;DASIA AND OXIA/
    1F20 GREEK SMALL LETTER ETA WITH *:PSILI;DASIA;PSILI AND VARIA;DASIA AND VARIA;PSILI AND OXIA;
    DASIA AND OXIA;PSILI AND PERISPOMENI;DASIA AND PERISPOMENI/
    1F28 GREEK CAPITAL LETTER ETA WITH *:PSILI;DASIA;PSILI AND VARIA;DASIA AND VARIA;
    PSILI AND OXIA;DASIA AND OXIA;PSILI AND PERISPOMENI;DASIA AND PERISPOMENI/
    1F30 GREEK SMALL LETTER IOTA WITH *:PSILI;DASIA;PSILI AND VARIA;DASIA AND VARIA;PSILI AND OXIA;
    DASIA AND OXIA;PSILI AND PERISPOMENI;DASIA AND PERISPOMENI/
    1F38 GREEK CAPITAL LETTER IOTA WITH *:PSILI;DASIA;PSILI AND VARIA;DASIA AND VARIA;
    PSILI AND OXIA;DASIA AND OXIA;PSILI AND PERISPOMENI;DASIA AND PERISPOMENI/
    1F40 GREEK SMALL LETTER OMICRON WITH *:PSILI;DASIA;PSILI AND VARIA;DASIA AND VARIA;
    PSILI AND OXIA;DASIA AND OXIA/1F48 GREEK CAPITAL LETTER OMICRON WITH *:PSILI;DASIA;
    PSILI AND VARIA;DASIA AND VARIA;PSILI AND OXIA;DASIA AND OXIA/
    1F50 GREEK SMALL LETTER UPSILON WITH *:PSILI;DASIA;PSILI AND VARIA;DASIA AND VARIA;
    PSILI AND OXIA;DASIA AND OXIA;PSILI AND PERISPOMENI;DASIA AND PERISPOMENI/
    1F59:GREEK CAPITAL LETTER UPSILON WITH DASIA/
    1F5B:GREEK CAPITAL LETTER UPSILON WITH DASIA AND VARIA/
    1F5D:GREEK CAPITAL LETTER UPSILON WITH DASIA AND OXIA/
    1F5F:GREEK CAPITAL LETTER UPSILON WITH DASIA AND PERISPOMENI/
    1F60 GREEK SMALL LETTER OMEGA WITH *:PSILI;DASIA;PSILI AND VARIA;DASIA AND VARIA;
    PSILI AND OXIA;DASIA AND OXIA;PSILI AND PERISPOMENI;DASIA AND PERISPOMENI/
    1F68 GREEK CAPITAL LETTER OMEGA WITH *:PSILI;DASIA;PSILI AND VARIA;DASIA AND VARIA;
    PSILI AND OXIA;DASIA AND OXIA;PSILI AND PERISPOMENI;DASIA AND PERISPOMENI/
    1F70 GREEK SMALL LETTER * WITH VARIA|GREEK SMALL LETTER * WITH OXIA:ALPHA;EPSILON;ETA;IOTA;
    OMICRON;UPSILON;OMEGA/1F80 GREEK SMALL LETTER ALPHA WITH * AND YPOGEGRAMMENI:PSILI;DASIA;
    PSILI AND VARIA;DASIA AND VARIA;PSILI AND OXIA;DASIA AND OXIA;PSILI AND PERISPOMENI;
    DASIA AND PERISPOMENI/1F88 GREEK CAPITAL LETTER ALPHA WITH * AND PROSGEGRAMMENI:PSILI;DASIA;
    PSILI AND VARIA;DASIA AND VARIA;PSILI AND OXIA;DASIA AND OXIA;PSILI AND PERISPOMENI;
    DASIA AND PERISPOMENI/1F90 GREEK SMALL LETTER ETA WITH PSILI AND *|
    GREEK SMALL LETTER ETA WITH DASIA AND *:YPOGEGRAMMENI;VARIA AND YPOGEGRAMMENI;
    OXIA AND YPOGEGRAMMENI;PERISPOMENI AND YPOGEGRAMMENI/
    1F98 GREEK CAPITAL LETTER ETA WITH * AND PROSGEGRAMMENI:PSILI;DASIA;PSILI AND VARIA;
    DASIA AND VARIA;PSILI AND OXIA;DASIA AND OXIA;PSILI AND PERISPOMENI;DASIA AND PERISPOMENI/
    1FA0 GREEK SMALL LETTER OMEGA WITH * AND YPOGEGRAMMENI:PSILI;DASIA;PSILI AND VARIA;
    DASIA AND VARIA;PSILI AND OXIA;DASIA AND OXIA;PSILI AND PERISPOMENI;DASIA AND PERISPOMENI/
    1FA8 GREEK CAPITAL LETTER OMEGA WITH * AND PROSGEGRAMMENI:PSILI;DASIA;PSILI AND VARIA;
    DASIA AND VARIA;PSILI AND OXIA;DASIA AND OXIA;PSILI AND PERISPOMENI;DASIA AND PERISPOMENI/
    1FB0 GREEK SMALL LETTER ALPHA WITH *:VRACHY;MACRON;VARIA AND YPOGEGRAMMENI;YPOGEGRAMMENI;
    OXIA AND YPOGEGRAMMENI/1FB6 GREEK SMALL LETTER ALPHA WITH *:PERISPOMENI;
    PERISPOMENI AND YPOGEGRAMMENI/1FB8 GREEK CAPITAL LETTER ALPHA WITH *:VRACHY;MACRON;VARIA;OXIA;
    PROSGEGRAMMENI/1FBD GREEK *:KORONIS;PROSGEGRAMMENI;PSILI;PERISPOMENI;DIALYTIKA AND PERISPOMENI/
    1FC2 GREEK SMALL LETTER ETA WITH *:VARIA AND YPOGEGRAMMENI;YPOGEGRAMMENI;
    OXIA AND YPOGEGRAMMENI/1FC6 GREEK SMALL LETTER ETA WITH *:PERISPOMENI;
    PERISPOMENI AND YPOGEGRAMMENI/1FC8 GREEK CAPITAL LETTER EPSILON WITH *:VARIA;OXIA/
    1FCA GREEK CAPITAL LETTER ETA WITH *:VARIA;OXIA;PROSGEGRAMMENI/1FCD GREEK PSILI AND *:VARIA;
    OXIA;PERISPOMENI/1FD0 GREEK SMALL LETTER IOTA WITH *:VRACHY;MACRON;DIALYTIKA AND VARIA;
    DIALYTIKA AND OXIA/1FD6 GREEK SMALL LETTER IOTA WITH *:PERISPOMENI;DIALYTIKA AND PERISPOMENI/
    1FD8 GREEK CAPITAL LETTER IOTA WITH *:VRACHY;MACRON;VARIA;OXIA/1FDD GREEK DASIA AND *:VARIA;
    OXIA;PERISPOMENI/1FE0 GREEK SMALL LETTER UPSILON WITH *:VRACHY;MACRON;DIALYTIKA AND VARIA;
    DIALYTIKA AND OXIA/1FE4 GREEK SMALL LETTER *:RHO WITH PSILI;RHO WITH DASIA;
    UPSILON WITH PERISPOMENI;UPSILON WITH DIALYTIKA AND PERISPOMENI/
    1FE8 GREEK CAPITAL LETTER UPSILON WITH *:VRACHY;MACRON;VARIA;OXIA/1FEC GREEK *:
    CAPITAL LETTER RHO WITH DASIA;DIALYTIKA AND VARIA;DIALYTIKA AND OXIA;VARIA/
    1FF2 GREEK SMALL LETTER OMEGA WITH *:VARIA AND YPOGEGRAMMENI;YPOGEGRAMMENI;
    OXIA AND YPOGEGRAMMENI/1FF6 GREEK SMALL LETTER OMEGA WITH *:PERISPOMENI;
    PERISPOMENI AND YPOGEGRAMMENI/1FF8 GREEK CAPITAL LETTER OMICRON WITH *:VARIA;OXIA/
    1FFA GREEK CAPITAL LETTER OMEGA WITH *:VARIA;OXIA;PROSGEGRAMMENI/1FFD GREEK *:OXIA;DASIA"

end DocSuite.Text
