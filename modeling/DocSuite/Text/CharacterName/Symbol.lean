/-!
The names of punctuation, arrows, operators, symbols and radicals.
-/
namespace DocSuite.Text

def symbolNames : String :=
  "2000 EN *|EM *:QUAD;SPACE/2004 * SPACE:THREE-PER-EM;FOUR-PER-EM;SIX-PER-EM;FIGURE;PUNCTUATION;
    THIN;HAIR/200B ZERO WIDTH *:SPACE;NON-JOINER;JOINER/200E:LEFT-TO-RIGHT MARK;RIGHT-TO-LEFT MARK;
    HYPHEN;NON-BREAKING HYPHEN;FIGURE DASH;EN DASH;EM DASH;HORIZONTAL BAR/2016 DOUBLE * LINE:
    VERTICAL;LOW/2018 LEFT * QUOTATION MARK|RIGHT * QUOTATION MARK|* LOW-9 QUOTATION MARK|
    * HIGH-REVERSED-9 QUOTATION MARK:SINGLE;DOUBLE/2020:DAGGER;DOUBLE DAGGER;BULLET;
    TRIANGULAR BULLET;ONE DOT LEADER;TWO DOT LEADER;HORIZONTAL ELLIPSIS;HYPHENATION POINT;
    LINE SEPARATOR;PARAGRAPH SEPARATOR;LEFT-TO-RIGHT EMBEDDING;RIGHT-TO-LEFT EMBEDDING;
    POP DIRECTIONAL FORMATTING;LEFT-TO-RIGHT OVERRIDE;RIGHT-TO-LEFT OVERRIDE;NARROW NO-BREAK SPACE;
    PER MILLE SIGN;PER TEN THOUSAND SIGN;PRIME/2033 * PRIME:DOUBLE;TRIPLE;REVERSED;REVERSED DOUBLE;
    REVERSED TRIPLE/2038:CARET/2039 SINGLE *-POINTING ANGLE QUOTATION MARK:LEFT;RIGHT/
    203B:REFERENCE MARK;DOUBLE EXCLAMATION MARK;INTERROBANG;OVERLINE;UNDERTIE;CHARACTER TIE;
    CARET INSERTION POINT;ASTERISM;HYPHEN BULLET;FRACTION SLASH/2045 * SQUARE BRACKET WITH QUILL:
    LEFT;RIGHT/2047:DOUBLE QUESTION MARK;QUESTION EXCLAMATION MARK;EXCLAMATION QUESTION MARK;
    TIRONIAN SIGN ET;REVERSED PILCROW SIGN;BLACK LEFTWARDS BULLET;BLACK RIGHTWARDS BULLET;
    LOW ASTERISK;REVERSED SEMICOLON;CLOSE UP;TWO ASTERISKS ALIGNED VERTICALLY;
    COMMERCIAL MINUS SIGN;SWUNG DASH;INVERTED UNDERTIE;FLOWER PUNCTUATION MARK;
    THREE DOT PUNCTUATION;QUADRUPLE PRIME/2058 * DOT PUNCTUATION:FOUR;FIVE;TWO/205B:FOUR DOT MARK;
    DOTTED CROSS;TRICOLON;VERTICAL FOUR DOTS;MEDIUM MATHEMATICAL SPACE;WORD JOINER;
    FUNCTION APPLICATION/2062 INVISIBLE *:TIMES;SEPARATOR;PLUS/2066 * ISOLATE:LEFT-TO-RIGHT;
    RIGHT-TO-LEFT;FIRST STRONG;POP DIRECTIONAL/206A INHIBIT *|ACTIVATE *:SYMMETRIC SWAPPING;
    ARABIC FORM SHAPING/206E * DIGIT SHAPES:NATIONAL;NOMINAL/2070 SUPERSCRIPT *:ZERO;
    LATIN SMALL LETTER I/2074 SUPERSCRIPT *:FOUR;FIVE;SIX;SEVEN;EIGHT;NINE;PLUS SIGN;MINUS;
    EQUALS SIGN;LEFT PARENTHESIS;RIGHT PARENTHESIS;LATIN SMALL LETTER N/2080 SUBSCRIPT *:ZERO;ONE;
    TWO;THREE;FOUR;FIVE;SIX;SEVEN;EIGHT;NINE;PLUS SIGN;MINUS;EQUALS SIGN;LEFT PARENTHESIS;
    RIGHT PARENTHESIS/2090 LATIN SUBSCRIPT SMALL LETTER *:A;E;O;X;SCHWA;H;K;L;M;N;P;S;T/
    20A0 * SIGN:EURO-CURRENCY;COLON;CRUZEIRO;FRENCH FRANC;LIRA;MILL;NAIRA;PESETA;RUPEE;WON;
    NEW SHEQEL;DONG;EURO;KIP;TUGRIK;DRACHMA;GERMAN PENNY;PESO;GUARANI;AUSTRAL;HRYVNIA;CEDI;
    LIVRE TOURNOIS;SPESMILO;TENGE;INDIAN RUPEE;TURKISH LIRA;NORDIC MARK;MANAT;RUBLE;LARI;BITCOIN;
    SOM/20D0 COMBINING * HARPOON ABOVE:LEFT;RIGHT/20D2 COMBINING * VERTICAL LINE OVERLAY:LONG;
    SHORT/20D4 COMBINING * ARROW ABOVE:ANTICLOCKWISE;CLOCKWISE;LEFT;RIGHT/20D8 COMBINING *:
    RING OVERLAY;CLOCKWISE RING OVERLAY;ANTICLOCKWISE RING OVERLAY;THREE DOTS ABOVE;
    FOUR DOTS ABOVE;ENCLOSING CIRCLE;ENCLOSING SQUARE;ENCLOSING DIAMOND;ENCLOSING CIRCLE BACKSLASH;
    LEFT RIGHT ARROW ABOVE;ENCLOSING SCREEN;ENCLOSING KEYCAP;ENCLOSING UPWARD POINTING TRIANGLE;
    REVERSE SOLIDUS OVERLAY;DOUBLE VERTICAL STROKE OVERLAY;ANNUITY SYMBOL;TRIPLE UNDERDOT;
    WIDE BRIDGE ABOVE;LEFTWARDS ARROW OVERLAY;LONG DOUBLE SOLIDUS OVERLAY;
    RIGHTWARDS HARPOON WITH BARB DOWNWARDS;LEFTWARDS HARPOON WITH BARB DOWNWARDS;LEFT ARROW BELOW;
    RIGHT ARROW BELOW;ASTERISK ABOVE/2100:ACCOUNT OF;ADDRESSED TO THE SUBJECT;
    DOUBLE-STRUCK CAPITAL C;DEGREE CELSIUS;CENTRE LINE SYMBOL;CARE OF;CADA UNA;EULER CONSTANT;
    SCRUPLE;DEGREE FAHRENHEIT;SCRIPT SMALL G;SCRIPT CAPITAL H;BLACK-LETTER CAPITAL H;
    DOUBLE-STRUCK CAPITAL H;PLANCK CONSTANT;PLANCK CONSTANT OVER TWO PI;SCRIPT CAPITAL I;
    BLACK-LETTER CAPITAL I;SCRIPT CAPITAL L;SCRIPT SMALL L;L B BAR SYMBOL;DOUBLE-STRUCK CAPITAL N;
    NUMERO SIGN;SOUND RECORDING COPYRIGHT;SCRIPT CAPITAL P/2119 DOUBLE-STRUCK CAPITAL *:P;Q/
    211B * CAPITAL R:SCRIPT;BLACK-LETTER;DOUBLE-STRUCK/211E:PRESCRIPTION TAKE;RESPONSE;
    SERVICE MARK;TELEPHONE SIGN;TRADE MARK SIGN;VERSICLE;DOUBLE-STRUCK CAPITAL Z;OUNCE SIGN;
    OHM SIGN;INVERTED OHM SIGN;BLACK-LETTER CAPITAL Z;TURNED GREEK SMALL LETTER IOTA;KELVIN SIGN;
    ANGSTROM SIGN;SCRIPT CAPITAL B;BLACK-LETTER CAPITAL C;ESTIMATED SYMBOL;SCRIPT SMALL E;
    SCRIPT CAPITAL E;SCRIPT CAPITAL F;TURNED CAPITAL F;SCRIPT CAPITAL M;SCRIPT SMALL O;ALEF SYMBOL;
    BET SYMBOL;GIMEL SYMBOL;DALET SYMBOL;INFORMATION SOURCE;ROTATED CAPITAL Q;FACSIMILE SIGN/
    213C DOUBLE-STRUCK *:SMALL PI;SMALL GAMMA;CAPITAL GAMMA;CAPITAL PI;N-ARY SUMMATION/
    2141 TURNED SANS-SERIF CAPITAL *:G;L/2143:REVERSED SANS-SERIF CAPITAL L;
    TURNED SANS-SERIF CAPITAL Y/2145 DOUBLE-STRUCK ITALIC *:CAPITAL D;SMALL D;SMALL E;SMALL I;
    SMALL J/214A:PROPERTY LINE;TURNED AMPERSAND;PER SIGN;AKTIESELSKAB;TURNED SMALL F;
    SYMBOL FOR SAMARITAN SOURCE/2150 VULGAR FRACTION *:ONE SEVENTH;ONE NINTH;ONE TENTH;ONE THIRD;
    TWO THIRDS;ONE FIFTH;TWO FIFTHS;THREE FIFTHS;FOUR FIFTHS;ONE SIXTH;FIVE SIXTHS;ONE EIGHTH;
    THREE EIGHTHS;FIVE EIGHTHS;SEVEN EIGHTHS/215F:FRACTION NUMERATOR ONE/2160 ROMAN NUMERAL *:ONE;
    TWO;THREE;FOUR;FIVE;SIX;SEVEN;EIGHT;NINE;TEN;ELEVEN;TWELVE;FIFTY;ONE HUNDRED;FIVE HUNDRED;
    ONE THOUSAND/2170 SMALL ROMAN NUMERAL *:ONE;TWO;THREE;FOUR;FIVE;SIX;SEVEN;EIGHT;NINE;TEN;
    ELEVEN;TWELVE;FIFTY;ONE HUNDRED;FIVE HUNDRED;ONE THOUSAND/2180 ROMAN NUMERAL *:
    ONE THOUSAND C D;FIVE THOUSAND;TEN THOUSAND;REVERSED ONE HUNDRED/
    2184:LATIN SMALL LETTER REVERSED C/2185 ROMAN NUMERAL *:SIX LATE FORM;FIFTY EARLY FORM;
    FIFTY THOUSAND;ONE HUNDRED THOUSAND/2189:VULGAR FRACTION ZERO THIRDS/218A TURNED DIGIT *:TWO;
    THREE/2190 * ARROW:LEFTWARDS;UPWARDS;RIGHTWARDS;DOWNWARDS;LEFT RIGHT;UP DOWN;NORTH WEST;
    NORTH EAST;SOUTH EAST;SOUTH WEST/219A LEFTWARDS *|RIGHTWARDS *:ARROW WITH STROKE;WAVE ARROW/
    219E * TWO HEADED ARROW:LEFTWARDS;UPWARDS;RIGHTWARDS;DOWNWARDS/21A2 * ARROW WITH TAIL:
    LEFTWARDS;RIGHTWARDS/21A4 * ARROW FROM BAR:LEFTWARDS;UPWARDS;RIGHTWARDS;DOWNWARDS/
    21A8:UP DOWN ARROW WITH BASE/21A9 LEFTWARDS ARROW WITH *|RIGHTWARDS ARROW WITH *:HOOK;LOOP/
    21AD LEFT RIGHT *:WAVE ARROW;ARROW WITH STROKE/21AF:DOWNWARDS ZIGZAG ARROW/
    21B0 * ARROW WITH TIP LEFTWARDS|* ARROW WITH TIP RIGHTWARDS:UPWARDS;DOWNWARDS/
    21B4:RIGHTWARDS ARROW WITH CORNER DOWNWARDS;DOWNWARDS ARROW WITH CORNER LEFTWARDS/
    21B6 * TOP SEMICIRCLE ARROW:ANTICLOCKWISE;CLOCKWISE/21B8 * BAR:NORTH WEST ARROW TO LONG;
    LEFTWARDS ARROW TO BAR OVER RIGHTWARDS ARROW TO/21BA * OPEN CIRCLE ARROW:ANTICLOCKWISE;
    CLOCKWISE/21BC LEFTWARDS HARPOON WITH BARB *:UPWARDS;DOWNWARDS/
    21BE UPWARDS HARPOON WITH BARB *:RIGHTWARDS;LEFTWARDS/21C0 RIGHTWARDS HARPOON WITH BARB *:
    UPWARDS;DOWNWARDS/21C2 DOWNWARDS HARPOON WITH BARB *:RIGHTWARDS;LEFTWARDS/21C4 * ARROW:
    RIGHTWARDS ARROW OVER LEFTWARDS;UPWARDS ARROW LEFTWARDS OF DOWNWARDS;
    LEFTWARDS ARROW OVER RIGHTWARDS/21C7 * PAIRED ARROWS:LEFTWARDS;UPWARDS;RIGHTWARDS;DOWNWARDS/
    21CB * HARPOON:LEFTWARDS HARPOON OVER RIGHTWARDS;RIGHTWARDS HARPOON OVER LEFTWARDS/
    21CD * DOUBLE ARROW WITH STROKE:LEFTWARDS;LEFT RIGHT;RIGHTWARDS/21D0 * DOUBLE ARROW:LEFTWARDS;
    UPWARDS;RIGHTWARDS;DOWNWARDS;LEFT RIGHT;UP DOWN;NORTH WEST;NORTH EAST;SOUTH EAST;SOUTH WEST/
    21DA LEFTWARDS * ARROW|RIGHTWARDS * ARROW:TRIPLE;SQUIGGLE/21DE * ARROW WITH DOUBLE STROKE:
    UPWARDS;DOWNWARDS/21E0 * DASHED ARROW:LEFTWARDS;UPWARDS;RIGHTWARDS;DOWNWARDS/
    21E4 * ARROW TO BAR:LEFTWARDS;RIGHTWARDS/21E6 * WHITE ARROW:LEFTWARDS;UPWARDS;RIGHTWARDS;
    DOWNWARDS/21EA UPWARDS WHITE ARROW *:FROM BAR;ON PEDESTAL;ON PEDESTAL WITH HORIZONTAL BAR;
    ON PEDESTAL WITH VERTICAL BAR/21EE UPWARDS WHITE DOUBLE *:ARROW;ARROW ON PEDESTAL/
    21F0:RIGHTWARDS WHITE ARROW FROM WALL;NORTH WEST ARROW TO CORNER;SOUTH EAST ARROW TO CORNER;
    UP DOWN WHITE ARROW;RIGHT ARROW WITH SMALL CIRCLE;DOWNWARDS ARROW LEFTWARDS OF UPWARDS ARROW;
    THREE RIGHTWARDS ARROWS/21F7 LEFTWARDS *|RIGHTWARDS *|LEFT RIGHT *:ARROW WITH VERTICAL STROKE;
    ARROW WITH DOUBLE VERTICAL STROKE;OPEN-HEADED ARROW/2200:FOR ALL;COMPLEMENT;
    PARTIAL DIFFERENTIAL;THERE EXISTS;THERE DOES NOT EXIST;EMPTY SET;INCREMENT;NABLA;ELEMENT OF/
    2209 * ELEMENT OF:NOT AN;SMALL/220B * AS MEMBER:CONTAINS;DOES NOT CONTAIN;SMALL CONTAINS/
    220E:END OF PROOF;N-ARY PRODUCT;N-ARY COPRODUCT;N-ARY SUMMATION;MINUS SIGN;MINUS-OR-PLUS SIGN;
    DOT PLUS;DIVISION SLASH;SET MINUS;ASTERISK OPERATOR;RING OPERATOR;BULLET OPERATOR;SQUARE ROOT;
    CUBE ROOT;FOURTH ROOT;PROPORTIONAL TO;INFINITY;RIGHT ANGLE;ANGLE;MEASURED ANGLE;
    SPHERICAL ANGLE;DIVIDES;DOES NOT DIVIDE;PARALLEL TO;NOT PARALLEL TO;LOGICAL AND;LOGICAL OR;
    INTERSECTION;UNION;INTEGRAL/222C * INTEGRAL:DOUBLE;TRIPLE;CONTOUR;SURFACE;VOLUME;CLOCKWISE;
    CLOCKWISE CONTOUR;ANTICLOCKWISE CONTOUR/2234:THEREFORE;BECAUSE;RATIO;PROPORTION;DOT MINUS;
    EXCESS;GEOMETRIC PROPORTION;HOMOTHETIC;TILDE OPERATOR;REVERSED TILDE;INVERTED LAZY S;SINE WAVE;
    WREATH PRODUCT;NOT TILDE;MINUS TILDE/2243 * EQUAL TO:ASYMPTOTICALLY;NOT ASYMPTOTICALLY;
    APPROXIMATELY;APPROXIMATELY BUT NOT ACTUALLY;NEITHER APPROXIMATELY NOR ACTUALLY;ALMOST;
    NOT ALMOST;ALMOST EQUAL OR/224B:TRIPLE TILDE;ALL EQUAL TO;EQUIVALENT TO;
    GEOMETRICALLY EQUIVALENT TO;DIFFERENCE BETWEEN;APPROACHES THE LIMIT;GEOMETRICALLY EQUAL TO;
    APPROXIMATELY EQUAL TO OR THE IMAGE OF;IMAGE OF OR APPROXIMATELY EQUAL TO;COLON EQUALS;
    EQUALS COLON;RING IN EQUAL TO;RING EQUAL TO;CORRESPONDS TO;ESTIMATES;EQUIANGULAR TO;
    STAR EQUALS;DELTA EQUAL TO;EQUAL TO BY DEFINITION;MEASURED BY;QUESTIONED EQUAL TO;NOT EQUAL TO;
    IDENTICAL TO;NOT IDENTICAL TO;STRICTLY EQUIVALENT TO/2264 LESS-THAN * EQUAL TO|
    GREATER-THAN * EQUAL TO:OR;OVER;BUT NOT/226A:MUCH LESS-THAN;MUCH GREATER-THAN;BETWEEN;
    NOT EQUIVALENT TO;NOT LESS-THAN;NOT GREATER-THAN/2270 NEITHER *-THAN NOR EQUAL TO:LESS;GREATER/
    2272 *-THAN OR EQUIVALENT TO:LESS;GREATER/2274 NEITHER *-THAN NOR EQUIVALENT TO:LESS;GREATER/
    2276 *-THAN:LESS-THAN OR GREATER;GREATER-THAN OR LESS;NEITHER LESS-THAN NOR GREATER;
    NEITHER GREATER-THAN NOR LESS/227A:PRECEDES;SUCCEEDS/227C PRECEDES OR * TO|SUCCEEDS OR * TO:
    EQUAL;EQUIVALENT/2280 DOES NOT *:PRECEDE;SUCCEED/2282 * OF:SUBSET;SUPERSET;NOT A SUBSET;
    NOT A SUPERSET/2286 * OF OR EQUAL TO:SUBSET;SUPERSET/2288 NEITHER A * OF NOR EQUAL TO:SUBSET;
    SUPERSET/228A * OF WITH NOT EQUAL TO:SUBSET;SUPERSET/228C:MULTISET/228D MULTISET *:
    MULTIPLICATION;UNION/228F SQUARE IMAGE *|SQUARE ORIGINAL *:OF;OF OR EQUAL TO/2293 SQUARE *:CAP;
    CUP/2295 CIRCLED *:PLUS;MINUS;TIMES;DIVISION SLASH;DOT OPERATOR;RING OPERATOR;
    ASTERISK OPERATOR;EQUALS;DASH/229E SQUARED *:PLUS;MINUS;TIMES;DOT OPERATOR/22A2 * TACK:RIGHT;
    LEFT;DOWN;UP/22A6:ASSERTION;MODELS;TRUE;FORCES;TRIPLE VERTICAL BAR RIGHT TURNSTILE;
    DOUBLE VERTICAL BAR DOUBLE RIGHT TURNSTILE;DOES NOT PROVE;NOT TRUE;DOES NOT FORCE;
    NEGATED DOUBLE VERTICAL BAR DOUBLE RIGHT TURNSTILE;PRECEDES UNDER RELATION;
    SUCCEEDS UNDER RELATION;NORMAL SUBGROUP OF;CONTAINS AS NORMAL SUBGROUP;
    NORMAL SUBGROUP OF OR EQUAL TO;CONTAINS AS NORMAL SUBGROUP OR EQUAL TO;ORIGINAL OF;IMAGE OF;
    MULTIMAP;HERMITIAN CONJUGATE MATRIX;INTERCALATE;XOR;NAND;NOR;RIGHT ANGLE WITH ARC;
    RIGHT TRIANGLE/22C0 N-ARY *:LOGICAL AND;LOGICAL OR;INTERSECTION;UNION/22C4 * OPERATOR:DIAMOND;
    DOT;STAR/22C7:DIVISION TIMES;BOWTIE/22C9 LEFT * PRODUCT|RIGHT * PRODUCT:
    NORMAL FACTOR SEMIDIRECT;SEMIDIRECT/22CD:REVERSED TILDE EQUALS/22CE CURLY LOGICAL *:OR;AND/
    22D0 DOUBLE *:SUBSET;SUPERSET;INTERSECTION;UNION/22D4:PITCHFORK;EQUAL AND PARALLEL TO/
    22D6 *-THAN WITH DOT:LESS;GREATER/22D8 *-THAN:VERY MUCH LESS;VERY MUCH GREATER;
    LESS-THAN EQUAL TO OR GREATER;GREATER-THAN EQUAL TO OR LESS/22DC EQUAL TO OR *:LESS-THAN;
    GREATER-THAN;PRECEDES;SUCCEEDS/22E0 DOES NOT * OR EQUAL:PRECEDE;SUCCEED/
    22E2 NOT SQUARE * OF OR EQUAL TO:IMAGE;ORIGINAL/22E4 SQUARE * OF OR NOT EQUAL TO:IMAGE;
    ORIGINAL/22E6 * BUT NOT EQUIVALENT TO:LESS-THAN;GREATER-THAN;PRECEDES;SUCCEEDS/
    22EA:NOT NORMAL SUBGROUP OF;DOES NOT CONTAIN AS NORMAL SUBGROUP;
    NOT NORMAL SUBGROUP OF OR EQUAL TO;DOES NOT CONTAIN AS NORMAL SUBGROUP OR EQUAL/
    22EE * ELLIPSIS:VERTICAL;MIDLINE HORIZONTAL;UP RIGHT DIAGONAL;DOWN RIGHT DIAGONAL/
    22F2:ELEMENT OF WITH LONG HORIZONTAL STROKE/
    22F3 * OF WITH VERTICAL BAR AT END OF HORIZONTAL STROKE:ELEMENT;SMALL ELEMENT/
    22F5 ELEMENT OF WITH *:DOT ABOVE;OVERBAR/22F7:SMALL ELEMENT OF WITH OVERBAR;
    ELEMENT OF WITH UNDERBAR;ELEMENT OF WITH TWO HORIZONTAL STROKES;
    CONTAINS WITH LONG HORIZONTAL STROKE/22FB CONTAINS WITH *|SMALL CONTAINS WITH *:
    VERTICAL BAR AT END OF HORIZONTAL STROKE;OVERBAR/22FF:Z NOTATION BAG MEMBERSHIP;DIAMETER SIGN;
    ELECTRIC ARROW;HOUSE;UP ARROWHEAD;DOWN ARROWHEAD;PROJECTIVE;PERSPECTIVE;WAVY LINE/2308 LEFT *|
    RIGHT *:CEILING;FLOOR/230C * RIGHT CROP|* LEFT CROP:BOTTOM;TOP/2310:REVERSED NOT SIGN;
    SQUARE LOZENGE;ARC;SEGMENT;SECTOR;TELEPHONE RECORDER;POSITION INDICATOR;VIEWDATA SQUARE;
    PLACE OF INTEREST SIGN;TURNED NOT SIGN;WATCH;HOURGLASS/231C * LEFT CORNER|* RIGHT CORNER:TOP;
    BOTTOM/2320 * HALF INTEGRAL:TOP;BOTTOM/2322:FROWN;SMILE;
    UP ARROWHEAD BETWEEN TWO HORIZONTAL BARS;OPTION KEY;ERASE TO THE RIGHT;X IN A RECTANGLE BOX;
    KEYBOARD/2329 *-POINTING ANGLE BRACKET:LEFT;RIGHT/232B:ERASE TO THE LEFT;BENZENE RING;
    CYLINDRICITY;ALL AROUND-PROFILE;SYMMETRY;TOTAL RUNOUT;DIMENSION ORIGIN;CONICAL TAPER;SLOPE;
    COUNTERBORE;COUNTERSINK/2336 APL FUNCTIONAL SYMBOL *:I-BEAM;SQUISH QUAD;QUAD EQUAL;QUAD DIVIDE;
    QUAD DIAMOND;QUAD JOT;QUAD CIRCLE;CIRCLE STILE;CIRCLE JOT;SLASH BAR;BACKSLASH BAR;QUAD SLASH;
    QUAD BACKSLASH;QUAD LESS-THAN;QUAD GREATER-THAN;LEFTWARDS VANE;RIGHTWARDS VANE;
    QUAD LEFTWARDS ARROW;QUAD RIGHTWARDS ARROW;CIRCLE BACKSLASH;DOWN TACK UNDERBAR;DELTA STILE;
    QUAD DOWN CARET;QUAD DELTA;DOWN TACK JOT;UPWARDS VANE;QUAD UPWARDS ARROW;UP TACK OVERBAR;
    DEL STILE;QUAD UP CARET;QUAD DEL;UP TACK JOT;DOWNWARDS VANE;QUAD DOWNWARDS ARROW;
    QUOTE UNDERBAR;DELTA UNDERBAR;DIAMOND UNDERBAR;JOT UNDERBAR;CIRCLE UNDERBAR;UP SHOE JOT;
    QUOTE QUAD;CIRCLE STAR;QUAD COLON;UP TACK DIAERESIS;DEL DIAERESIS;STAR DIAERESIS;JOT DIAERESIS;
    CIRCLE DIAERESIS;DOWN SHOE STILE;LEFT SHOE STILE;TILDE DIAERESIS;GREATER-THAN DIAERESIS;
    COMMA BAR;DEL TILDE;ZILDE;STILE TILDE;SEMICOLON UNDERBAR;QUAD NOT EQUAL;QUAD QUESTION;
    DOWN CARET TILDE;UP CARET TILDE;IOTA;RHO;OMEGA;ALPHA UNDERBAR;EPSILON UNDERBAR;IOTA UNDERBAR;
    OMEGA UNDERBAR;ALPHA/237B:NOT CHECK MARK;RIGHT ANGLE WITH DOWNWARDS ZIGZAG ARROW;
    SHOULDERED OPEN BOX;BELL SYMBOL;VERTICAL LINE WITH MIDDLE DOT/2380 * SYMBOL:INSERTION;
    CONTINUOUS UNDERLINE;DISCONTINUOUS UNDERLINE;EMPHASIS;COMPOSITION/
    2385:WHITE SQUARE WITH CENTRE VERTICAL LINE;ENTER SYMBOL;ALTERNATIVE KEY SYMBOL;HELM SYMBOL;
    CIRCLED HORIZONTAL BAR WITH NOTCH;CIRCLED TRIANGLE DOWN;BROKEN CIRCLE WITH NORTHWEST ARROW/
    238C * SYMBOL:UNDO;MONOSTABLE;HYSTERESIS/238F OPEN-CIRCUIT-OUTPUT *-TYPE SYMBOL:H;L/
    2391 PASSIVE-PULL-*-OUTPUT SYMBOL:DOWN;UP/2393:DIRECT CURRENT SYMBOL FORM TWO;
    SOFTWARE-FUNCTION SYMBOL;APL FUNCTIONAL SYMBOL QUAD;DECIMAL SEPARATOR KEY SYMBOL;PREVIOUS PAGE;
    NEXT PAGE/2399 * SCREEN SYMBOL:PRINT;CLEAR/239B * PARENTHESIS UPPER HOOK|
    * PARENTHESIS EXTENSION|* PARENTHESIS LOWER HOOK:LEFT;RIGHT/23A1 * SQUARE BRACKET UPPER CORNER|
    * SQUARE BRACKET EXTENSION|* SQUARE BRACKET LOWER CORNER:LEFT;RIGHT/23A7 LEFT CURLY BRACKET *:
    UPPER HOOK;MIDDLE PIECE;LOWER HOOK/23AA:CURLY BRACKET EXTENSION/23AB RIGHT CURLY BRACKET *:
    UPPER HOOK;MIDDLE PIECE;LOWER HOOK/23AE * EXTENSION:INTEGRAL;HORIZONTAL LINE/
    23B0 UPPER * CURLY BRACKET SECTION:LEFT OR LOWER RIGHT;RIGHT OR LOWER LEFT/23B2 SUMMATION *:
    TOP;BOTTOM/23B4 * SQUARE BRACKET:TOP;BOTTOM;BOTTOM SQUARE BRACKET OVER TOP/
    23B7:RADICAL SYMBOL BOTTOM/23B8 * VERTICAL BOX LINE:LEFT;RIGHT/23BA HORIZONTAL SCAN LINE-*:1;3;
    7;9/23BE DENTISTRY SYMBOL LIGHT *:VERTICAL AND TOP RIGHT;VERTICAL AND BOTTOM RIGHT;
    VERTICAL WITH CIRCLE;DOWN AND HORIZONTAL WITH CIRCLE;UP AND HORIZONTAL WITH CIRCLE;
    VERTICAL WITH TRIANGLE;DOWN AND HORIZONTAL WITH TRIANGLE;UP AND HORIZONTAL WITH TRIANGLE;
    VERTICAL AND WAVE;DOWN AND HORIZONTAL WITH WAVE;UP AND HORIZONTAL WITH WAVE;
    DOWN AND HORIZONTAL;UP AND HORIZONTAL;VERTICAL AND TOP LEFT;VERTICAL AND BOTTOM LEFT/
    23CD:SQUARE FOOT;RETURN SYMBOL;EJECT SYMBOL;VERTICAL LINE EXTENSION/23D1 METRICAL *:BREVE;
    LONG OVER SHORT;SHORT OVER LONG;LONG OVER TWO SHORTS;TWO SHORTS OVER LONG;TWO SHORTS JOINED;
    TRISEME;TETRASEME;PENTASEME/23DA:EARTH GROUND;FUSE/23DC TOP *|BOTTOM *:PARENTHESIS;
    CURLY BRACKET;TORTOISE SHELL BRACKET/23E2:WHITE TRAPEZIUM;BENZENE RING WITH CIRCLE;
    STRAIGHTNESS;FLATNESS;AC CURRENT;ELECTRICAL INTERSECTION;DECIMAL EXPONENT SYMBOL/
    23E9 BLACK *-POINTING DOUBLE TRIANGLE:RIGHT;LEFT;UP;DOWN/
    23ED BLACK *-POINTING DOUBLE TRIANGLE WITH VERTICAL BAR:RIGHT;LEFT/
    23EF:BLACK RIGHT-POINTING TRIANGLE WITH DOUBLE VERTICAL BAR;ALARM CLOCK;STOPWATCH;TIMER CLOCK;
    HOURGLASS WITH FLOWING SAND/23F4 BLACK MEDIUM *-POINTING TRIANGLE:LEFT;RIGHT;UP;DOWN/
    23F8:DOUBLE VERTICAL BAR;BLACK SQUARE FOR STOP;BLACK CIRCLE FOR RECORD/23FB * SYMBOL:POWER;
    POWER ON-OFF;POWER ON;POWER SLEEP;OBSERVER EYE/2400 SYMBOL FOR *:NULL;START OF HEADING;
    START OF TEXT;END OF TEXT;END OF TRANSMISSION;ENQUIRY;ACKNOWLEDGE;BELL;BACKSPACE;
    HORIZONTAL TABULATION;LINE FEED;VERTICAL TABULATION;FORM FEED;CARRIAGE RETURN;SHIFT OUT;
    SHIFT IN;DATA LINK ESCAPE/2411 SYMBOL FOR DEVICE CONTROL *:ONE;TWO;THREE;FOUR/
    2415 SYMBOL FOR *:NEGATIVE ACKNOWLEDGE;SYNCHRONOUS IDLE;END OF TRANSMISSION BLOCK;CANCEL;
    END OF MEDIUM;SUBSTITUTE;ESCAPE;FILE SEPARATOR;GROUP SEPARATOR;RECORD SEPARATOR;UNIT SEPARATOR;
    SPACE;DELETE/2422:BLANK SYMBOL;OPEN BOX/2424 SYMBOL FOR *:NEWLINE;DELETE FORM TWO;
    SUBSTITUTE FORM TWO/2440 OCR *:HOOK;CHAIR;FORK;INVERTED FORK;BELT BUCKLE;BOW TIE;
    BRANCH BANK IDENTIFICATION;AMOUNT OF CHECK;DASH;CUSTOMER ACCOUNT NUMBER;DOUBLE BACKSLASH/
    2460 CIRCLED DIGIT *:ONE;TWO;THREE;FOUR;FIVE;SIX;SEVEN;EIGHT;NINE/2469 CIRCLED NUMBER *:TEN;
    ELEVEN;TWELVE;THIRTEEN;FOURTEEN;FIFTEEN;SIXTEEN;SEVENTEEN;EIGHTEEN;NINETEEN;TWENTY/
    2474 PARENTHESIZED DIGIT *:ONE;TWO;THREE;FOUR;FIVE;SIX;SEVEN;EIGHT;NINE/
    247D PARENTHESIZED NUMBER *:TEN;ELEVEN;TWELVE;THIRTEEN;FOURTEEN;FIFTEEN;SIXTEEN;SEVENTEEN;
    EIGHTEEN;NINETEEN;TWENTY/2488 DIGIT * FULL STOP:ONE;TWO;THREE;FOUR;FIVE;SIX;SEVEN;EIGHT;NINE/
    2491 NUMBER * FULL STOP:TEN;ELEVEN;TWELVE;THIRTEEN;FOURTEEN;FIFTEEN;SIXTEEN;SEVENTEEN;EIGHTEEN;
    NINETEEN;TWENTY/249C PARENTHESIZED LATIN SMALL LETTER *:A;B;C;D;E;F;G;H;I;J;K;L;M;N;O;P;Q;R;S;
    T;U;V;W;X;Y;Z/24B6 CIRCLED LATIN CAPITAL LETTER *:A;B;C;D;E;F;G;H;I;J;K;L;M;N;O;P;Q;R;S;T;U;V;
    W;X;Y;Z/24D0 CIRCLED LATIN SMALL LETTER *:A;B;C;D;E;F;G;H;I;J;K;L;M;N;O;P;Q;R;S;T;U;V;W;X;Y;Z/
    24EA:CIRCLED DIGIT ZERO/24EB NEGATIVE CIRCLED NUMBER *:ELEVEN;TWELVE;THIRTEEN;FOURTEEN;FIFTEEN;
    SIXTEEN;SEVENTEEN;EIGHTEEN;NINETEEN;TWENTY/24F5 DOUBLE CIRCLED DIGIT *:ONE;TWO;THREE;FOUR;FIVE;
    SIX;SEVEN;EIGHT;NINE/24FE:DOUBLE CIRCLED NUMBER TEN;NEGATIVE CIRCLED DIGIT ZERO/
    2500 BOX DRAWINGS LIGHT *|BOX DRAWINGS HEAVY *:HORIZONTAL;VERTICAL;TRIPLE DASH HORIZONTAL;
    TRIPLE DASH VERTICAL;QUADRUPLE DASH HORIZONTAL;QUADRUPLE DASH VERTICAL/250C BOX DRAWINGS *:
    LIGHT DOWN AND RIGHT;DOWN LIGHT AND RIGHT HEAVY;DOWN HEAVY AND RIGHT LIGHT;
    HEAVY DOWN AND RIGHT;LIGHT DOWN AND LEFT;DOWN LIGHT AND LEFT HEAVY;DOWN HEAVY AND LEFT LIGHT;
    HEAVY DOWN AND LEFT;LIGHT UP AND RIGHT;UP LIGHT AND RIGHT HEAVY;UP HEAVY AND RIGHT LIGHT;
    HEAVY UP AND RIGHT;LIGHT UP AND LEFT;UP LIGHT AND LEFT HEAVY;UP HEAVY AND LEFT LIGHT;
    HEAVY UP AND LEFT;LIGHT VERTICAL AND RIGHT;VERTICAL LIGHT AND RIGHT HEAVY;
    UP HEAVY AND RIGHT DOWN LIGHT;DOWN HEAVY AND RIGHT UP LIGHT;VERTICAL HEAVY AND RIGHT LIGHT;
    DOWN LIGHT AND RIGHT UP HEAVY;UP LIGHT AND RIGHT DOWN HEAVY;HEAVY VERTICAL AND RIGHT;
    LIGHT VERTICAL AND LEFT;VERTICAL LIGHT AND LEFT HEAVY;UP HEAVY AND LEFT DOWN LIGHT;
    DOWN HEAVY AND LEFT UP LIGHT;VERTICAL HEAVY AND LEFT LIGHT;DOWN LIGHT AND LEFT UP HEAVY;
    UP LIGHT AND LEFT DOWN HEAVY;HEAVY VERTICAL AND LEFT;LIGHT DOWN AND HORIZONTAL;
    LEFT HEAVY AND RIGHT DOWN LIGHT;RIGHT HEAVY AND LEFT DOWN LIGHT;
    DOWN LIGHT AND HORIZONTAL HEAVY;DOWN HEAVY AND HORIZONTAL LIGHT;
    RIGHT LIGHT AND LEFT DOWN HEAVY;LEFT LIGHT AND RIGHT DOWN HEAVY;HEAVY DOWN AND HORIZONTAL;
    LIGHT UP AND HORIZONTAL;LEFT HEAVY AND RIGHT UP LIGHT;RIGHT HEAVY AND LEFT UP LIGHT;
    UP LIGHT AND HORIZONTAL HEAVY;UP HEAVY AND HORIZONTAL LIGHT;RIGHT LIGHT AND LEFT UP HEAVY;
    LEFT LIGHT AND RIGHT UP HEAVY;HEAVY UP AND HORIZONTAL;LIGHT VERTICAL AND HORIZONTAL;
    LEFT HEAVY AND RIGHT VERTICAL LIGHT;RIGHT HEAVY AND LEFT VERTICAL LIGHT;
    VERTICAL LIGHT AND HORIZONTAL HEAVY;UP HEAVY AND DOWN HORIZONTAL LIGHT;
    DOWN HEAVY AND UP HORIZONTAL LIGHT;VERTICAL HEAVY AND HORIZONTAL LIGHT;
    LEFT UP HEAVY AND RIGHT DOWN LIGHT;RIGHT UP HEAVY AND LEFT DOWN LIGHT;
    LEFT DOWN HEAVY AND RIGHT UP LIGHT;RIGHT DOWN HEAVY AND LEFT UP LIGHT;
    DOWN LIGHT AND UP HORIZONTAL HEAVY;UP LIGHT AND DOWN HORIZONTAL HEAVY;
    RIGHT LIGHT AND LEFT VERTICAL HEAVY;LEFT LIGHT AND RIGHT VERTICAL HEAVY;
    HEAVY VERTICAL AND HORIZONTAL;LIGHT DOUBLE DASH HORIZONTAL;HEAVY DOUBLE DASH HORIZONTAL;
    LIGHT DOUBLE DASH VERTICAL;HEAVY DOUBLE DASH VERTICAL;DOUBLE HORIZONTAL;DOUBLE VERTICAL;
    DOWN SINGLE AND RIGHT DOUBLE;DOWN DOUBLE AND RIGHT SINGLE;DOUBLE DOWN AND RIGHT;
    DOWN SINGLE AND LEFT DOUBLE;DOWN DOUBLE AND LEFT SINGLE;DOUBLE DOWN AND LEFT;
    UP SINGLE AND RIGHT DOUBLE;UP DOUBLE AND RIGHT SINGLE;DOUBLE UP AND RIGHT;
    UP SINGLE AND LEFT DOUBLE;UP DOUBLE AND LEFT SINGLE;DOUBLE UP AND LEFT;
    VERTICAL SINGLE AND RIGHT DOUBLE;VERTICAL DOUBLE AND RIGHT SINGLE;DOUBLE VERTICAL AND RIGHT;
    VERTICAL SINGLE AND LEFT DOUBLE;VERTICAL DOUBLE AND LEFT SINGLE;DOUBLE VERTICAL AND LEFT/
    2564 BOX DRAWINGS * SINGLE AND HORIZONTAL DOUBLE|BOX DRAWINGS * DOUBLE AND HORIZONTAL SINGLE|
    BOX DRAWINGS DOUBLE * AND HORIZONTAL:DOWN;UP;VERTICAL/256D BOX DRAWINGS LIGHT *:
    ARC DOWN AND RIGHT;ARC DOWN AND LEFT;ARC UP AND LEFT;ARC UP AND RIGHT;
    DIAGONAL UPPER RIGHT TO LOWER LEFT;DIAGONAL UPPER LEFT TO LOWER RIGHT;DIAGONAL CROSS;LEFT;UP;
    RIGHT;DOWN/2578 BOX DRAWINGS *:HEAVY LEFT;HEAVY UP;HEAVY RIGHT;HEAVY DOWN;
    LIGHT LEFT AND HEAVY RIGHT;LIGHT UP AND HEAVY DOWN;HEAVY LEFT AND LIGHT RIGHT;
    HEAVY UP AND LIGHT DOWN/2580:UPPER HALF BLOCK/2581 LOWER * BLOCK:ONE EIGHTH;ONE QUARTER;
    THREE EIGHTHS;HALF;FIVE EIGHTHS;THREE QUARTERS;SEVEN EIGHTHS/2588:FULL BLOCK/2589 LEFT * BLOCK:
    SEVEN EIGHTHS;THREE QUARTERS;FIVE EIGHTHS;HALF;THREE EIGHTHS;ONE QUARTER;ONE EIGHTH/
    2590:RIGHT HALF BLOCK/2591 * SHADE:LIGHT;MEDIUM;DARK/2594 * ONE EIGHTH BLOCK:UPPER;RIGHT/
    2596 QUADRANT LOWER *:LEFT;RIGHT/2598 QUADRANT UPPER *:LEFT;
    LEFT AND LOWER LEFT AND LOWER RIGHT;LEFT AND LOWER RIGHT;LEFT AND UPPER RIGHT AND LOWER LEFT;
    LEFT AND UPPER RIGHT AND LOWER RIGHT;RIGHT;RIGHT AND LOWER LEFT;
    RIGHT AND LOWER LEFT AND LOWER RIGHT/25A0 * SQUARE:BLACK;WHITE/25A2 WHITE SQUARE *:
    WITH ROUNDED CORNERS;CONTAINING BLACK SMALL SQUARE/25A4 SQUARE WITH * FILL:HORIZONTAL;VERTICAL;
    ORTHOGONAL CROSSHATCH;UPPER LEFT TO LOWER RIGHT;UPPER RIGHT TO LOWER LEFT;DIAGONAL CROSSHATCH/
    25AA BLACK *|WHITE *:SMALL SQUARE;RECTANGLE;VERTICAL RECTANGLE;PARALLELOGRAM;
    UP-POINTING TRIANGLE;UP-POINTING SMALL TRIANGLE;RIGHT-POINTING TRIANGLE;
    RIGHT-POINTING SMALL TRIANGLE;RIGHT-POINTING POINTER;DOWN-POINTING TRIANGLE;
    DOWN-POINTING SMALL TRIANGLE;LEFT-POINTING TRIANGLE;LEFT-POINTING SMALL TRIANGLE;
    LEFT-POINTING POINTER;DIAMOND/25C8:WHITE DIAMOND CONTAINING BLACK SMALL DIAMOND;FISHEYE;
    LOZENGE;WHITE CIRCLE;DOTTED CIRCLE;CIRCLE WITH VERTICAL FILL;BULLSEYE;BLACK CIRCLE/
    25D0 CIRCLE WITH * BLACK:LEFT HALF;RIGHT HALF;LOWER HALF;UPPER HALF;UPPER RIGHT QUADRANT;
    ALL BUT UPPER LEFT QUADRANT/25D6 * HALF BLACK CIRCLE:LEFT;RIGHT/25D8 INVERSE *:BULLET;
    WHITE CIRCLE/25DA * HALF INVERSE WHITE CIRCLE:UPPER;LOWER/25DC * QUADRANT CIRCULAR ARC:
    UPPER LEFT;UPPER RIGHT;LOWER RIGHT;LOWER LEFT/25E0 * HALF CIRCLE:UPPER;LOWER/
    25E2 BLACK * TRIANGLE:LOWER RIGHT;LOWER LEFT;UPPER LEFT;UPPER RIGHT/25E6:WHITE BULLET/
    25E7 SQUARE WITH * HALF BLACK:LEFT;RIGHT;UPPER LEFT DIAGONAL;LOWER RIGHT DIAGONAL/25EB WHITE *:
    SQUARE WITH VERTICAL BISECTING LINE;UP-POINTING TRIANGLE WITH DOT/
    25ED UP-POINTING TRIANGLE WITH * HALF BLACK:LEFT;RIGHT/25EF:LARGE CIRCLE/
    25F0 WHITE * WITH UPPER LEFT QUADRANT|WHITE * WITH LOWER LEFT QUADRANT|
    WHITE * WITH LOWER RIGHT QUADRANT|WHITE * WITH UPPER RIGHT QUADRANT:SQUARE;CIRCLE/
    25F8 * TRIANGLE:UPPER LEFT;UPPER RIGHT;LOWER LEFT/25FB WHITE MEDIUM *|BLACK MEDIUM *:SQUARE;
    SMALL SQUARE/25FF:LOWER RIGHT TRIANGLE;BLACK SUN WITH RAYS;CLOUD;UMBRELLA;SNOWMAN;COMET;
    BLACK STAR;WHITE STAR;LIGHTNING;THUNDERSTORM;SUN;ASCENDING NODE;DESCENDING NODE;CONJUNCTION;
    OPPOSITION;BLACK TELEPHONE;WHITE TELEPHONE;BALLOT BOX;BALLOT BOX WITH CHECK;BALLOT BOX WITH X;
    SALTIRE;UMBRELLA WITH RAIN DROPS;HOT BEVERAGE;WHITE SHOGI PIECE;BLACK SHOGI PIECE;SHAMROCK;
    REVERSED ROTATED FLORAL HEART BULLET/261A BLACK * POINTING INDEX:LEFT;RIGHT/
    261C WHITE * POINTING INDEX:LEFT;UP;RIGHT;DOWN/2620:SKULL AND CROSSBONES;CAUTION SIGN;
    RADIOACTIVE SIGN;BIOHAZARD SIGN;CADUCEUS;ANKH;ORTHODOX CROSS;CHI RHO;CROSS OF LORRAINE;
    CROSS OF JERUSALEM;STAR AND CRESCENT;FARSI SYMBOL;ADI SHAKTI;HAMMER AND SICKLE;PEACE SYMBOL;
    YIN YANG/2630 TRIGRAM FOR *:HEAVEN;LAKE;FIRE;THUNDER;WIND;WATER;MOUNTAIN;EARTH/
    2638:WHEEL OF DHARMA;WHITE FROWNING FACE;WHITE SMILING FACE;BLACK SMILING FACE;
    WHITE SUN WITH RAYS;FIRST QUARTER MOON;LAST QUARTER MOON;MERCURY;FEMALE SIGN;EARTH;MALE SIGN;
    JUPITER;SATURN;URANUS;NEPTUNE;PLUTO;ARIES;TAURUS;GEMINI;CANCER;LEO;VIRGO;LIBRA;SCORPIUS;
    SAGITTARIUS;CAPRICORN;AQUARIUS;PISCES/2654 WHITE CHESS *:KING;QUEEN;ROOK;BISHOP;KNIGHT;PAWN/
    265A BLACK CHESS *:KING;QUEEN;ROOK;BISHOP;KNIGHT;PAWN/2660 * SUIT:BLACK SPADE;WHITE HEART;
    WHITE DIAMOND;BLACK CLUB;WHITE SPADE;BLACK HEART;BLACK DIAMOND;WHITE CLUB/2668:HOT SPRINGS;
    QUARTER NOTE;EIGHTH NOTE/266B BEAMED * NOTES:EIGHTH;SIXTEENTH/266D MUSIC * SIGN:FLAT;NATURAL;
    SHARP/2670 * SYRIAC CROSS:WEST;EAST/2672:UNIVERSAL RECYCLING SYMBOL/
    2673 RECYCLING SYMBOL FOR TYPE-* PLASTICS:1;2;3;4;5;6;7/
    267A:RECYCLING SYMBOL FOR GENERIC MATERIALS;BLACK UNIVERSAL RECYCLING SYMBOL;
    RECYCLED PAPER SYMBOL;PARTIALLY-RECYCLED PAPER SYMBOL;PERMANENT PAPER SIGN;WHEELCHAIR SYMBOL/
    2680 DIE FACE-*:1;2;3;4;5;6/2686 WHITE CIRCLE WITH *:DOT RIGHT;TWO DOTS/
    2688 BLACK CIRCLE WITH *:WHITE DOT RIGHT;TWO WHITE DOTS/268A MONOGRAM FOR *:YANG;YIN/
    268C DIGRAM FOR *:GREATER YANG;LESSER YIN;LESSER YANG;GREATER YIN/2690:WHITE FLAG;BLACK FLAG;
    HAMMER AND PICK;ANCHOR;CROSSED SWORDS;STAFF OF AESCULAPIUS;SCALES;ALEMBIC;FLOWER;GEAR;
    STAFF OF HERMES;ATOM SYMBOL;FLEUR-DE-LIS;OUTLINED WHITE STAR/269E THREE LINES CONVERGING *:
    RIGHT;LEFT/26A0 * SIGN:WARNING;HIGH VOLTAGE;DOUBLED FEMALE;DOUBLED MALE;
    INTERLOCKED FEMALE AND MALE;MALE AND FEMALE;MALE WITH STROKE;
    MALE WITH STROKE AND MALE AND FEMALE/26A8 * MALE WITH STROKE SIGN:VERTICAL;HORIZONTAL/
    26AA MEDIUM * CIRCLE:WHITE;BLACK;SMALL WHITE/26AD * SYMBOL:MARRIAGE;DIVORCE;
    UNMARRIED PARTNERSHIP/26B0:COFFIN;FUNERAL URN;NEUTER;CERES;PALLAS;JUNO;VESTA;CHIRON;
    BLACK MOON LILITH;SEXTILE;SEMISEXTILE;QUINCUNX;SESQUIQUADRATE;SOCCER BALL;BASEBALL;SQUARED KEY/
    26C0 * DRAUGHTS MAN|* DRAUGHTS KING:WHITE;BLACK/26C4:SNOWMAN WITHOUT SNOW;SUN BEHIND CLOUD;
    RAIN;BLACK SNOWMAN;THUNDER CLOUD AND RAIN;TURNED WHITE SHOGI PIECE;TURNED BLACK SHOGI PIECE;
    WHITE DIAMOND IN SQUARE;CROSSING LANES;DISABLED CAR;OPHIUCHUS;PICK;CAR SLIDING;
    HELMET WITH WHITE CROSS;CIRCLED CROSSING LANES;CHAINS;NO ENTRY;
    ALTERNATE ONE-WAY LEFT WAY TRAFFIC/26D6 BLACK *|WHITE *:TWO-WAY LEFT WAY TRAFFIC;
    LEFT LANE MERGE/26DA:DRIVE SLOW SIGN;HEAVY WHITE DOWN-POINTING TRIANGLE;LEFT CLOSED ENTRY;
    SQUARED SALTIRE;FALLING DIAGONAL IN WHITE CIRCLE IN BLACK SQUARE;BLACK TRUCK/
    26E0 RESTRICTED LEFT ENTRY-*:1;2/26E2:ASTRONOMICAL SYMBOL FOR URANUS;
    HEAVY CIRCLE WITH STROKE AND TWO DOTS ABOVE;PENTAGRAM/26E5 *-HANDED INTERLACED PENTAGRAM:RIGHT;
    LEFT/26E7:INVERTED PENTAGRAM;BLACK CROSS ON SHIELD;SHINTO SHRINE;CHURCH;CASTLE;HISTORIC SITE;
    GEAR WITHOUT HUB;GEAR WITH HANDLES;MAP SYMBOL FOR LIGHTHOUSE;MOUNTAIN;UMBRELLA ON GROUND;
    FOUNTAIN;FLAG IN HOLE;FERRY;SAILBOAT;SQUARE FOUR CORNERS;SKIER;ICE SKATE;PERSON WITH BALL;TENT;
    JAPANESE BANK SYMBOL;HEADSTONE GRAVEYARD SYMBOL;FUEL PUMP;CUP ON BLACK SQUARE;
    WHITE FLAG WITH HORIZONTAL MIDDLE BLACK STRIPE/2700 * SCISSORS:BLACK SAFETY;UPPER BLADE;BLACK;
    LOWER BLADE;WHITE/2705:WHITE HEAVY CHECK MARK;TELEPHONE LOCATION SIGN;TAPE DRIVE;AIRPLANE;
    ENVELOPE;RAISED FIST;RAISED HAND;VICTORY HAND;WRITING HAND;LOWER RIGHT PENCIL;PENCIL;
    UPPER RIGHT PENCIL;WHITE NIB;BLACK NIB/2713 *|HEAVY *:CHECK MARK;MULTIPLICATION X;BALLOT X/
    2719 * CROSS:OUTLINED GREEK;HEAVY GREEK;OPEN CENTRE;HEAVY OPEN CENTRE;LATIN;
    SHADOWED WHITE LATIN;OUTLINED LATIN;MALTESE/2721:STAR OF DAVID/2722 *-SPOKED ASTERISK:
    FOUR TEARDROP;FOUR BALLOON;HEAVY FOUR BALLOON;FOUR CLUB/2726 * FOUR POINTED STAR:BLACK;WHITE/
    2728:SPARKLES/2729 * STAR:STRESS OUTLINED WHITE;CIRCLED WHITE;OPEN CENTRE BLACK;
    BLACK CENTRE WHITE;OUTLINED BLACK;HEAVY OUTLINED BLACK;PINWHEEL;SHADOWED WHITE/2731 * ASTERISK:
    HEAVY;OPEN CENTRE;EIGHT SPOKED/2734 EIGHT POINTED * STAR:BLACK;PINWHEEL/2736 * BLACK STAR:
    SIX POINTED;EIGHT POINTED RECTILINEAR;HEAVY EIGHT POINTED RECTILINEAR;TWELVE POINTED/
    273A * ASTERISK:SIXTEEN POINTED;TEARDROP-SPOKED;OPEN CENTRE TEARDROP-SPOKED;
    HEAVY TEARDROP-SPOKED/273E * FLORETTE:SIX PETALLED BLACK AND WHITE;BLACK;WHITE;
    EIGHT PETALLED OUTLINED BLACK/2742:CIRCLED OPEN CENTRE EIGHT POINTED STAR;
    HEAVY TEARDROP-SPOKED PINWHEEL ASTERISK;SNOWFLAKE;TIGHT TRIFOLIATE SNOWFLAKE;
    HEAVY CHEVRON SNOWFLAKE;SPARKLE;HEAVY SPARKLE;BALLOON-SPOKED ASTERISK/
    274A * TEARDROP-SPOKED PROPELLER ASTERISK:EIGHT;HEAVY EIGHT/274C:CROSS MARK;
    SHADOWED WHITE CIRCLE;NEGATIVE SQUARED CROSS MARK/274F LOWER RIGHT * WHITE SQUARE|
    UPPER RIGHT * WHITE SQUARE:DROP-SHADOWED;SHADOWED/2753 * MARK ORNAMENT:BLACK QUESTION;
    WHITE QUESTION;WHITE EXCLAMATION/2756:BLACK DIAMOND MINUS WHITE X;
    HEAVY EXCLAMATION MARK SYMBOL/2758 * VERTICAL BAR:LIGHT;MEDIUM;HEAVY/
    275B HEAVY * COMMA QUOTATION MARK ORNAMENT:SINGLE TURNED;SINGLE;DOUBLE TURNED;DOUBLE;
    LOW SINGLE;LOW DOUBLE/2761 * ORNAMENT:CURVED STEM PARAGRAPH SIGN;HEAVY EXCLAMATION MARK;
    HEAVY HEART EXCLAMATION MARK/2764 * HEART|ROTATED * HEART BULLET:HEAVY BLACK;FLORAL/
    2768 MEDIUM * PARENTHESIS ORNAMENT:LEFT;RIGHT;FLATTENED LEFT;FLATTENED RIGHT/
    276C MEDIUM *-POINTING ANGLE BRACKET ORNAMENT:LEFT;RIGHT/
    276E HEAVY LEFT-POINTING ANGLE * ORNAMENT|HEAVY RIGHT-POINTING ANGLE * ORNAMENT:QUOTATION MARK;
    BRACKET/2772 LIGHT * TORTOISE SHELL BRACKET ORNAMENT:LEFT;RIGHT/
    2774 MEDIUM * CURLY BRACKET ORNAMENT:LEFT;RIGHT/2776 DINGBAT NEGATIVE CIRCLED DIGIT *:ONE;TWO;
    THREE;FOUR;FIVE;SIX;SEVEN;EIGHT;NINE/277F:DINGBAT NEGATIVE CIRCLED NUMBER TEN/
    2780 DINGBAT CIRCLED SANS-SERIF DIGIT *:ONE;TWO;THREE;FOUR;FIVE;SIX;SEVEN;EIGHT;NINE/
    2789:DINGBAT CIRCLED SANS-SERIF NUMBER TEN/278A DINGBAT NEGATIVE CIRCLED SANS-SERIF DIGIT *:
    ONE;TWO;THREE;FOUR;FIVE;SIX;SEVEN;EIGHT;NINE/
    2793:DINGBAT NEGATIVE CIRCLED SANS-SERIF NUMBER TEN/2794 HEAVY *:WIDE-HEADED RIGHTWARDS ARROW;
    PLUS SIGN;MINUS SIGN;DIVISION SIGN;SOUTH EAST ARROW;RIGHTWARDS ARROW;NORTH EAST ARROW/
    279B * RIGHTWARDS ARROW:DRAFTING POINT;HEAVY ROUND-TIPPED;TRIANGLE-HEADED;
    HEAVY TRIANGLE-HEADED;DASHED TRIANGLE-HEADED;HEAVY DASHED TRIANGLE-HEADED;BLACK/
    27A2 * RIGHTWARDS ARROWHEAD:THREE-D TOP-LIGHTED;THREE-D BOTTOM-LIGHTED;BLACK/
    27A5 * RIGHTWARDS ARROW:HEAVY BLACK CURVED DOWNWARDS AND;HEAVY BLACK CURVED UPWARDS AND;
    SQUAT BLACK;HEAVY CONCAVE-POINTED BLACK;RIGHT-SHADED WHITE;LEFT-SHADED WHITE/
    27AB *SHADOWED WHITE RIGHTWARDS ARROW:BACK-TILTED ;FRONT-TILTED ;HEAVY LOWER RIGHT-;
    HEAVY UPPER RIGHT-;NOTCHED LOWER RIGHT-/27B0:CURLY LOOP/27B1 * RIGHTWARDS ARROW:
    NOTCHED UPPER RIGHT-SHADOWED WHITE;CIRCLED HEAVY WHITE;WHITE-FEATHERED/
    27B4 *-FEATHERED SOUTH EAST ARROW|*-FEATHERED RIGHTWARDS ARROW|*-FEATHERED NORTH EAST ARROW:
    BLACK;HEAVY BLACK/27BA * RIGHTWARDS ARROW:TEARDROP-BARBED;HEAVY TEARDROP-SHANKED;WEDGE-TAILED;
    HEAVY WEDGE-TAILED;OPEN-OUTLINED/27BF:DOUBLE CURLY LOOP;THREE DIMENSIONAL ANGLE;
    WHITE TRIANGLE CONTAINING SMALL WHITE TRIANGLE;PERPENDICULAR;OPEN SUBSET;OPEN SUPERSET/
    27C5 * S-SHAPED BAG DELIMITER:LEFT;RIGHT/27C7:OR WITH DOT INSIDE;
    REVERSE SOLIDUS PRECEDING SUBSET;SUPERSET PRECEDING SOLIDUS;
    VERTICAL BAR WITH HORIZONTAL STROKE;MATHEMATICAL RISING DIAGONAL;LONG DIVISION;
    MATHEMATICAL FALLING DIAGONAL;SQUARED LOGICAL AND;SQUARED LOGICAL OR;
    WHITE DIAMOND WITH CENTRED DOT;AND WITH DOT;ELEMENT OF OPENING UPWARDS/27D3 * CORNER WITH DOT:
    LOWER RIGHT;UPPER LEFT/27D5 * OUTER JOIN:LEFT;RIGHT;FULL/27D8 LARGE * TACK:UP;DOWN/
    27DA LEFT AND RIGHT *:DOUBLE TURNSTILE;TACK/27DC:LEFT MULTIMAP;LONG RIGHT TACK;LONG LEFT TACK;
    UP TACK WITH CIRCLE ABOVE;LOZENGE DIVIDED BY HORIZONTAL RULE;WHITE CONCAVE-SIDED DIAMOND/
    27E2 WHITE * WITH LEFTWARDS TICK|WHITE * WITH RIGHTWARDS TICK:CONCAVE-SIDED DIAMOND;SQUARE/
    27E6 MATHEMATICAL LEFT *|MATHEMATICAL RIGHT *:WHITE SQUARE BRACKET;ANGLE BRACKET;
    DOUBLE ANGLE BRACKET;WHITE TORTOISE SHELL BRACKET;FLATTENED PARENTHESIS/27F0 * QUADRUPLE ARROW:
    UPWARDS;DOWNWARDS/27F2 * GAPPED CIRCLE ARROW:ANTICLOCKWISE;CLOCKWISE/
    27F4:RIGHT ARROW WITH CIRCLED PLUS/27F5 LONG LEFTWARDS *|LONG RIGHTWARDS *|LONG LEFT RIGHT *:
    ARROW;DOUBLE ARROW/27FB LONG LEFTWARDS * FROM BAR|LONG RIGHTWARDS * FROM BAR:ARROW;
    DOUBLE ARROW/27FF:LONG RIGHTWARDS SQUIGGLE ARROW;BRAILLE PATTERN BLANK/
    2801 BRAILLE PATTERN DOTS-*:1;2;12;3;13;23;123;4;14;24;124;34;134;234;1234;5;15;25;125;35;135;
    235;1235;45;145;245;1245;345;1345;2345;12345;6;16;26;126;36;136;236;1236;46;146;246;1246;346;
    1346;2346;12346;56;156;256;1256;356;1356;2356;12356;456;1456;2456;12456;3456;13456;23456;
    123456;7;17;27;127;37;137;237;1237;47;147;247;1247;347;1347;2347;12347;57;157;257;1257;357;
    1357;2357;12357;457;1457;2457;12457;3457;13457;23457;123457;67;167;267;1267;367;1367;2367;
    12367;467;1467;2467;12467;3467;13467;23467;123467;567;1567;2567;12567;3567;13567;23567;123567;
    4567;14567;24567;124567;34567;134567;234567;1234567;8;18;28;128;38;138;238;1238;48;148;248;
    1248;348;1348;2348;12348;58;158;258;1258;358;1358;2358;12358;458;1458;2458;12458;3458;13458;
    23458;123458;68;168;268;1268;368;1368;2368;12368;468;1468;2468;12468;3468;13468;23468;123468;
    568;1568;2568;12568;3568;13568;23568;123568;4568;14568;24568;124568;34568;134568;234568;
    1234568;78;178;278;1278;378;1378;2378;12378;478;1478;2478;12478;3478;13478;23478;123478;578;
    1578;2578;12578;3578;13578;23578;123578;4578;14578;24578;124578;34578;134578;234578;1234578;
    678;1678;2678;12678;3678;13678;23678;123678;4678;14678;24678;124678;34678;134678;234678;
    1234678;5678;15678;25678;125678;35678;135678;235678;1235678;45678;145678;245678;1245678;345678;
    1345678;2345678;12345678/2900 RIGHTWARDS TWO-HEADED ARROW WITH * STROKE:VERTICAL;
    DOUBLE VERTICAL/2902 * DOUBLE ARROW WITH VERTICAL STROKE:LEFTWARDS;RIGHTWARDS;LEFT RIGHT/
    2905 * ARROW FROM BAR:RIGHTWARDS TWO-HEADED;LEFTWARDS DOUBLE;RIGHTWARDS DOUBLE/
    2908 * ARROW WITH HORIZONTAL STROKE:DOWNWARDS;UPWARDS/290A * TRIPLE ARROW:UPWARDS;DOWNWARDS/
    290C LEFTWARDS * DASH ARROW|RIGHTWARDS * DASH ARROW:DOUBLE;TRIPLE/2910 RIGHTWARDS *:
    TWO-HEADED TRIPLE DASH ARROW;ARROW WITH DOTTED STEM/2912 * ARROW TO BAR:UPWARDS;DOWNWARDS/
    2914 RIGHTWARDS ARROW WITH TAIL WITH * STROKE:VERTICAL;DOUBLE VERTICAL/
    2916 RIGHTWARDS TWO-HEADED ARROW WITH *:TAIL;TAIL WITH VERTICAL STROKE;
    TAIL WITH DOUBLE VERTICAL STROKE/2919 LEFTWARDS *|RIGHTWARDS *:ARROW-TAIL;DOUBLE ARROW-TAIL;
    ARROW TO BLACK DIAMOND;ARROW FROM BAR TO BLACK DIAMOND/2921 NORTH * ARROW:WEST AND SOUTH EAST;
    EAST AND SOUTH WEST/2923 * ARROW WITH HOOK:NORTH WEST;NORTH EAST;SOUTH EAST;SOUTH WEST/
    2927 NORTH * EAST ARROW:WEST ARROW AND NORTH;EAST ARROW AND SOUTH/2929 SOUTH * WEST ARROW:
    EAST ARROW AND SOUTH;WEST ARROW AND NORTH/292B * DIAGONAL:RISING DIAGONAL CROSSING FALLING;
    FALLING DIAGONAL CROSSING RISING/292D * EAST ARROW:SOUTH EAST ARROW CROSSING NORTH;
    NORTH EAST ARROW CROSSING SOUTH;FALLING DIAGONAL CROSSING NORTH;RISING DIAGONAL CROSSING SOUTH/
    2931 NORTH * ARROW:EAST ARROW CROSSING NORTH WEST;WEST ARROW CROSSING NORTH EAST/
    2933:WAVE ARROW POINTING DIRECTLY RIGHT/2934 ARROW POINTING RIGHTWARDS THEN CURVING *:UPWARDS;
    DOWNWARDS/2936 ARROW POINTING DOWNWARDS THEN CURVING *:LEFTWARDS;RIGHTWARDS/
    2938:RIGHT-SIDE ARC CLOCKWISE ARROW/2939 * ARC ANTICLOCKWISE ARROW:LEFT-SIDE;TOP;BOTTOM/
    293C TOP ARC *:CLOCKWISE ARROW WITH MINUS;ANTICLOCKWISE ARROW WITH PLUS/293E * ARROW:
    LOWER RIGHT SEMICIRCULAR CLOCKWISE;LOWER LEFT SEMICIRCULAR ANTICLOCKWISE;
    ANTICLOCKWISE CLOSED CIRCLE;CLOCKWISE CLOSED CIRCLE;RIGHTWARDS ARROW ABOVE SHORT LEFTWARDS;
    LEFTWARDS ARROW ABOVE SHORT RIGHTWARDS;SHORT RIGHTWARDS ARROW ABOVE LEFTWARDS/
    2945 * ARROW WITH PLUS BELOW:RIGHTWARDS;LEFTWARDS/2947:RIGHTWARDS ARROW THROUGH X/
    2948 * SMALL CIRCLE:LEFT RIGHT ARROW THROUGH;UPWARDS TWO-HEADED ARROW FROM/294A * HARPOON:
    LEFT BARB UP RIGHT BARB DOWN;LEFT BARB DOWN RIGHT BARB UP;UP BARB RIGHT DOWN BARB LEFT;
    UP BARB LEFT DOWN BARB RIGHT;LEFT BARB UP RIGHT BARB UP;UP BARB RIGHT DOWN BARB RIGHT;
    LEFT BARB DOWN RIGHT BARB DOWN;UP BARB LEFT DOWN BARB LEFT/2952 * HARPOON WITH BARB UP TO BAR:
    LEFTWARDS;RIGHTWARDS/2954 * HARPOON WITH BARB RIGHT TO BAR:UPWARDS;DOWNWARDS/
    2956 * HARPOON WITH BARB DOWN TO BAR:LEFTWARDS;RIGHTWARDS/2958 * HARPOON WITH BARB LEFT TO BAR:
    UPWARDS;DOWNWARDS/295A * HARPOON WITH BARB UP FROM BAR:LEFTWARDS;RIGHTWARDS/
    295C * HARPOON WITH BARB RIGHT FROM BAR:UPWARDS;DOWNWARDS/
    295E * HARPOON WITH BARB DOWN FROM BAR:LEFTWARDS;RIGHTWARDS/
    2960 * HARPOON WITH BARB LEFT FROM BAR:UPWARDS;DOWNWARDS/
    2962:LEFTWARDS HARPOON WITH BARB UP ABOVE LEFTWARDS HARPOON WITH BARB DOWN;
    UPWARDS HARPOON WITH BARB LEFT BESIDE UPWARDS HARPOON WITH BARB RIGHT;
    RIGHTWARDS HARPOON WITH BARB UP ABOVE RIGHTWARDS HARPOON WITH BARB DOWN;
    DOWNWARDS HARPOON WITH BARB LEFT BESIDE DOWNWARDS HARPOON WITH BARB RIGHT/
    2966 LEFTWARDS HARPOON WITH BARB *:UP ABOVE RIGHTWARDS HARPOON WITH BARB UP;
    DOWN ABOVE RIGHTWARDS HARPOON WITH BARB DOWN/2968 RIGHTWARDS HARPOON WITH BARB *:
    UP ABOVE LEFTWARDS HARPOON WITH BARB UP;DOWN ABOVE LEFTWARDS HARPOON WITH BARB DOWN/
    296A * HARPOON WITH BARB UP ABOVE LONG DASH|* HARPOON WITH BARB DOWN BELOW LONG DASH:LEFTWARDS;
    RIGHTWARDS/296E * HARPOON WITH BARB RIGHT:UPWARDS HARPOON WITH BARB LEFT BESIDE DOWNWARDS;
    DOWNWARDS HARPOON WITH BARB LEFT BESIDE UPWARDS/2970:RIGHT DOUBLE ARROW WITH ROUNDED HEAD/
    2971 * ABOVE RIGHTWARDS ARROW:EQUALS SIGN;TILDE OPERATOR/2973 * ARROW ABOVE TILDE OPERATOR:
    LEFTWARDS;RIGHTWARDS/2975:RIGHTWARDS ARROW ABOVE ALMOST EQUAL TO;
    LESS-THAN ABOVE LEFTWARDS ARROW;LEFTWARDS ARROW THROUGH LESS-THAN/
    2978 * ABOVE RIGHTWARDS ARROW:GREATER-THAN;SUBSET/297A:LEFTWARDS ARROW THROUGH SUBSET;
    SUPERSET ABOVE LEFTWARDS ARROW/297C * FISH TAIL:LEFT;RIGHT;UP;DOWN/
    2980:TRIPLE VERTICAL BAR DELIMITER/2981 Z NOTATION *:SPOT;TYPE COLON/2983 LEFT WHITE *|
    RIGHT WHITE *:CURLY BRACKET;PARENTHESIS/2987 Z NOTATION LEFT * BRACKET|
    Z NOTATION RIGHT * BRACKET:IMAGE;BINDING/298B * SQUARE BRACKET WITH UNDERBAR:LEFT;RIGHT/
    298D:LEFT SQUARE BRACKET WITH TICK IN TOP CORNER/
    298E * SQUARE BRACKET WITH TICK IN BOTTOM CORNER:RIGHT;LEFT/
    2990:RIGHT SQUARE BRACKET WITH TICK IN TOP CORNER/2991 * ANGLE BRACKET WITH DOT:LEFT;RIGHT/
    2993 *-THAN BRACKET:LEFT ARC LESS;RIGHT ARC GREATER;DOUBLE LEFT ARC GREATER;
    DOUBLE RIGHT ARC LESS/2997 * BLACK TORTOISE SHELL BRACKET:LEFT;RIGHT/2999:DOTTED FENCE;
    VERTICAL ZIGZAG LINE;MEASURED ANGLE OPENING LEFT;RIGHT ANGLE VARIANT WITH SQUARE;
    MEASURED RIGHT ANGLE WITH DOT;ANGLE WITH S INSIDE;ACUTE ANGLE/29A0 SPHERICAL ANGLE OPENING *:
    LEFT;UP/29A2 * ANGLE:TURNED;REVERSED/29A4 * WITH UNDERBAR:ANGLE;REVERSED ANGLE/
    29A6 OBLIQUE ANGLE OPENING *:UP;DOWN/
    29A8 MEASURED ANGLE WITH OPEN ARM ENDING IN ARROW POINTING *:UP AND RIGHT;UP AND LEFT;
    DOWN AND RIGHT;DOWN AND LEFT;RIGHT AND UP;LEFT AND UP;RIGHT AND DOWN;LEFT AND DOWN/
    29B0:REVERSED EMPTY SET/29B1 EMPTY SET WITH *:OVERBAR;SMALL CIRCLE ABOVE;RIGHT ARROW ABOVE;
    LEFT ARROW ABOVE/29B5:CIRCLE WITH HORIZONTAL BAR/29B6 CIRCLED *:VERTICAL BAR;PARALLEL;
    REVERSE SOLIDUS;PERPENDICULAR/
    29BA:CIRCLE DIVIDED BY HORIZONTAL BAR AND TOP HALF DIVIDED BY VERTICAL BAR;
    CIRCLE WITH SUPERIMPOSED X;CIRCLED ANTICLOCKWISE-ROTATED DIVISION SIGN;UP ARROW THROUGH CIRCLE/
    29BE CIRCLED *:WHITE BULLET;BULLET;LESS-THAN;GREATER-THAN/29C2 CIRCLE WITH * TO THE RIGHT:
    SMALL CIRCLE;TWO HORIZONTAL STROKES/29C4 SQUARED *:RISING DIAGONAL SLASH;
    FALLING DIAGONAL SLASH;ASTERISK;SMALL CIRCLE;SQUARE/29C9:TWO JOINED SQUARES;
    TRIANGLE WITH DOT ABOVE;TRIANGLE WITH UNDERBAR;S IN TRIANGLE;TRIANGLE WITH SERIFS AT BOTTOM;
    RIGHT TRIANGLE ABOVE LEFT TRIANGLE;LEFT TRIANGLE BESIDE VERTICAL BAR;
    VERTICAL BAR BESIDE RIGHT TRIANGLE/29D1 BOWTIE WITH * HALF BLACK:LEFT;RIGHT/29D3:BLACK BOWTIE/
    29D4 TIMES WITH * HALF BLACK:LEFT;RIGHT/29D6 * HOURGLASS:WHITE;BLACK/29D8 LEFT * FENCE|
    RIGHT * FENCE:WIGGLY;DOUBLE WIGGLY/29DC:INCOMPLETE INFINITY;TIE OVER INFINITY;
    INFINITY NEGATED WITH VERTICAL BAR;DOUBLE-ENDED MULTIMAP;SQUARE WITH CONTOURED OUTLINE;
    INCREASES AS;SHUFFLE PRODUCT/29E3 EQUALS SIGN AND SLANTED *:PARALLEL;PARALLEL WITH TILDE ABOVE/
    29E5:IDENTICAL TO AND SLANTED PARALLEL;GLEICH STARK;THERMODYNAMIC/
    29E8 DOWN-POINTING TRIANGLE WITH * HALF BLACK:LEFT;RIGHT/29EA BLACK *:DIAMOND WITH DOWN ARROW;
    LOZENGE/29EC * CIRCLE WITH DOWN ARROW:WHITE;BLACK/29EE ERROR-BARRED WHITE *|
    ERROR-BARRED BLACK *:SQUARE;DIAMOND;CIRCLE/29F4:RULE-DELAYED;REVERSE SOLIDUS OPERATOR;
    SOLIDUS WITH OVERBAR;REVERSE SOLIDUS WITH HORIZONTAL STROKE;BIG SOLIDUS;BIG REVERSE SOLIDUS;
    DOUBLE PLUS;TRIPLE PLUS/29FC *-POINTING CURVED ANGLE BRACKET:LEFT;RIGHT/29FE:TINY;MINY/
    2A00 N-ARY CIRCLED * OPERATOR:DOT;PLUS;TIMES/2A03 N-ARY UNION OPERATOR WITH *:DOT;PLUS/
    2A05 N-ARY SQUARE * OPERATOR:INTERSECTION;UNION/2A07 TWO LOGICAL * OPERATOR:AND;OR/
    2A09:N-ARY TIMES OPERATOR;MODULO TWO SUM;SUMMATION WITH INTEGRAL;QUADRUPLE INTEGRAL OPERATOR;
    FINITE PART INTEGRAL;INTEGRAL WITH DOUBLE STROKE;INTEGRAL AVERAGE WITH SLASH;
    CIRCULATION FUNCTION;ANTICLOCKWISE INTEGRATION/2A12 LINE INTEGRATION * POLE:
    WITH RECTANGULAR PATH AROUND;WITH SEMICIRCULAR PATH AROUND;NOT INCLUDING THE/2A15 * OPERATOR:
    INTEGRAL AROUND A POINT;QUATERNION INTEGRAL/2A17 INTEGRAL WITH *:LEFTWARDS ARROW WITH HOOK;
    TIMES SIGN;INTERSECTION;UNION;OVERBAR;UNDERBAR/2A1D:JOIN;LARGE LEFT TRIANGLE OPERATOR/
    2A1F Z NOTATION SCHEMA *:COMPOSITION;PIPING;PROJECTION/2A22 PLUS SIGN WITH *:
    SMALL CIRCLE ABOVE;CIRCUMFLEX ACCENT ABOVE;TILDE ABOVE;DOT BELOW;TILDE BELOW;SUBSCRIPT TWO;
    BLACK TRIANGLE/2A29 MINUS SIGN WITH *:COMMA ABOVE;DOT BELOW;FALLING DOTS;RISING DOTS/
    2A2D PLUS SIGN IN * HALF CIRCLE:LEFT;RIGHT/2A2F:VECTOR OR CROSS PRODUCT/
    2A30 MULTIPLICATION SIGN WITH *:DOT ABOVE;UNDERBAR/2A32:SEMIDIRECT PRODUCT WITH BOTTOM CLOSED;
    SMASH PRODUCT/2A34 MULTIPLICATION SIGN IN * HALF CIRCLE:LEFT;RIGHT/
    2A36:CIRCLED MULTIPLICATION SIGN WITH CIRCUMFLEX ACCENT;MULTIPLICATION SIGN IN DOUBLE CIRCLE;
    CIRCLED DIVISION SIGN/2A39 * SIGN IN TRIANGLE:PLUS;MINUS;MULTIPLICATION/2A3C:INTERIOR PRODUCT;
    RIGHTHAND INTERIOR PRODUCT;Z NOTATION RELATIONAL COMPOSITION;AMALGAMATION OR COPRODUCT;
    INTERSECTION WITH DOT/2A41 UNION WITH *:MINUS SIGN;OVERBAR/2A43 INTERSECTION WITH *:OVERBAR;
    LOGICAL AND/2A45:UNION WITH LOGICAL OR;UNION ABOVE INTERSECTION;INTERSECTION ABOVE UNION;
    UNION ABOVE BAR ABOVE INTERSECTION;INTERSECTION ABOVE BAR ABOVE UNION;
    UNION BESIDE AND JOINED WITH UNION;INTERSECTION BESIDE AND JOINED WITH INTERSECTION/
    2A4C CLOSED * WITH SERIFS:UNION;INTERSECTION/2A4E DOUBLE SQUARE *:INTERSECTION;UNION/
    2A50:CLOSED UNION WITH SERIFS AND SMASH PRODUCT/2A51 LOGICAL * WITH DOT ABOVE:AND;OR/
    2A53 * LOGICAL AND|* LOGICAL OR:DOUBLE;TWO INTERSECTING/2A57 SLOPING LARGE *:OR;AND/
    2A59:LOGICAL OR OVERLAPPING LOGICAL AND/2A5A LOGICAL AND WITH *|LOGICAL OR WITH *:MIDDLE STEM;
    HORIZONTAL DASH/2A5E LOGICAL AND WITH *:DOUBLE OVERBAR;UNDERBAR;DOUBLE UNDERBAR/
    2A61:SMALL VEE WITH UNDERBAR/2A62 LOGICAL OR WITH DOUBLE *:OVERBAR;UNDERBAR/
    2A64 Z NOTATION * ANTIRESTRICTION:DOMAIN;RANGE/2A66:EQUALS SIGN WITH DOT BELOW;
    IDENTICAL WITH DOT ABOVE/2A68 TRIPLE HORIZONTAL BAR WITH * VERTICAL STROKE:DOUBLE;TRIPLE/
    2A6A TILDE OPERATOR WITH *:DOT ABOVE;RISING DOTS/2A6C:SIMILAR MINUS SIMILAR;
    CONGRUENT WITH DOT ABOVE;EQUALS WITH ASTERISK;ALMOST EQUAL TO WITH CIRCUMFLEX ACCENT;
    APPROXIMATELY EQUAL OR EQUAL TO;EQUALS SIGN ABOVE PLUS SIGN;PLUS SIGN ABOVE EQUALS SIGN;
    EQUALS SIGN ABOVE TILDE OPERATOR;DOUBLE COLON EQUAL/2A75 * CONSECUTIVE EQUALS SIGNS:TWO;THREE/
    2A77:EQUALS SIGN WITH TWO DOTS ABOVE AND TWO DOTS BELOW;EQUIVALENT WITH FOUR DOTS ABOVE/
    2A79 LESS-THAN *|GREATER-THAN *:WITH CIRCLE INSIDE;WITH QUESTION MARK ABOVE;
    OR SLANTED EQUAL TO;OR SLANTED EQUAL TO WITH DOT INSIDE;OR SLANTED EQUAL TO WITH DOT ABOVE/
    2A83:LESS-THAN OR SLANTED EQUAL TO WITH DOT ABOVE RIGHT;
    GREATER-THAN OR SLANTED EQUAL TO WITH DOT ABOVE LEFT/2A85 LESS-THAN *|GREATER-THAN *:
    OR APPROXIMATE;AND SINGLE-LINE NOT EQUAL TO;AND NOT APPROXIMATE/2A8B *-THAN:
    LESS-THAN ABOVE DOUBLE-LINE EQUAL ABOVE GREATER;
    GREATER-THAN ABOVE DOUBLE-LINE EQUAL ABOVE LESS/2A8D *-THAN ABOVE SIMILAR OR EQUAL:LESS;
    GREATER/2A8F *-THAN:LESS-THAN ABOVE SIMILAR ABOVE GREATER;
    GREATER-THAN ABOVE SIMILAR ABOVE LESS/2A91 *-THAN ABOVE DOUBLE-LINE EQUAL:
    LESS-THAN ABOVE GREATER;GREATER-THAN ABOVE LESS/2A93 *-THAN ABOVE SLANTED EQUAL:
    LESS-THAN ABOVE SLANTED EQUAL ABOVE GREATER;GREATER-THAN ABOVE SLANTED EQUAL ABOVE LESS/
    2A95 SLANTED EQUAL TO OR LESS-*|SLANTED EQUAL TO OR GREATER-*:THAN;THAN WITH DOT INSIDE/
    2A99 * OR LESS-THAN|* OR GREATER-THAN:DOUBLE-LINE EQUAL TO;DOUBLE-LINE SLANTED EQUAL TO;
    SIMILAR/2A9F SIMILAR ABOVE *-THAN ABOVE EQUALS SIGN:LESS;GREATER/2AA1 DOUBLE NESTED *:
    LESS-THAN;GREATER-THAN;LESS-THAN WITH UNDERBAR/2AA4 GREATER-THAN * LESS-THAN:OVERLAPPING;
    BESIDE/2AA6 LESS-THAN CLOSED BY *|GREATER-THAN CLOSED BY *:CURVE;CURVE ABOVE SLANTED EQUAL/
    2AAA SMALLER *|LARGER *:THAN;THAN OR EQUAL TO/2AAE:EQUALS SIGN WITH BUMPY ABOVE/
    2AAF PRECEDES ABOVE *|SUCCEEDS ABOVE *:SINGLE-LINE EQUALS SIGN;SINGLE-LINE NOT EQUAL TO;
    EQUALS SIGN;NOT EQUAL TO;ALMOST EQUAL TO;NOT ALMOST EQUAL TO/2ABB DOUBLE *:PRECEDES;SUCCEEDS/
    2ABD SUBSET *|SUPERSET *:WITH DOT;WITH PLUS SIGN BELOW;WITH MULTIPLICATION SIGN BELOW;
    OF OR EQUAL TO WITH DOT ABOVE;OF ABOVE EQUALS SIGN;OF ABOVE TILDE OPERATOR;
    OF ABOVE ALMOST EQUAL TO;OF ABOVE NOT EQUAL TO/2ACD SQUARE * OPEN BOX OPERATOR:LEFT;RIGHT/
    2ACF CLOSED *:SUBSET;SUPERSET;SUBSET OR EQUAL TO;SUPERSET OR EQUAL TO/
    2AD3:SUBSET ABOVE SUPERSET/2AD4 * ABOVE SUBSET:SUPERSET;SUBSET/2AD6 SUPERSET *:ABOVE SUPERSET;
    BESIDE SUBSET;BESIDE AND JOINED BY DASH WITH SUBSET/2AD9:ELEMENT OF OPENING DOWNWARDS;
    PITCHFORK WITH TEE TOP;TRANSVERSAL INTERSECTION;FORKING;NONFORKING/2ADE SHORT * TACK:LEFT;DOWN;
    UP/2AE1:PERPENDICULAR WITH S/2AE2 * TURNSTILE:VERTICAL BAR TRIPLE RIGHT;
    DOUBLE VERTICAL BAR LEFT;VERTICAL BAR DOUBLE LEFT;DOUBLE VERTICAL BAR DOUBLE LEFT/
    2AE6:LONG DASH FROM LEFT MEMBER OF DOUBLE VERTICAL;SHORT DOWN TACK WITH OVERBAR/
    2AE8 SHORT UP TACK *:WITH UNDERBAR;ABOVE SHORT DOWN TACK/2AEA DOUBLE * TACK:DOWN;UP/
    2AEC * STROKE NOT SIGN:DOUBLE;REVERSED DOUBLE/
    2AEE:DOES NOT DIVIDE WITH REVERSED NEGATION SLASH/2AEF VERTICAL LINE WITH CIRCLE *:ABOVE;BELOW/
    2AF1:DOWN TACK WITH CIRCLE BELOW/2AF2 PARALLEL WITH *:HORIZONTAL STROKE;TILDE OPERATOR/
    2AF4 TRIPLE *:VERTICAL BAR BINARY RELATION;VERTICAL BAR WITH HORIZONTAL STROKE;COLON OPERATOR;
    NESTED LESS-THAN;NESTED GREATER-THAN/2AF9 DOUBLE-LINE SLANTED *-THAN OR EQUAL TO:LESS;GREATER/
    2AFB:TRIPLE SOLIDUS BINARY RELATION;LARGE TRIPLE VERTICAL BAR OPERATOR;DOUBLE SOLIDUS OPERATOR/
    2AFE * VERTICAL BAR:WHITE;N-ARY WHITE/2B00 * WHITE ARROW:NORTH EAST;NORTH WEST;SOUTH EAST;
    SOUTH WEST;LEFT RIGHT/2B05 * BLACK ARROW:LEFTWARDS;UPWARDS;DOWNWARDS;NORTH EAST;NORTH WEST;
    SOUTH EAST;SOUTH WEST;LEFT RIGHT;UP DOWN/2B0E * ARROW WITH TIP DOWNWARDS|
    * ARROW WITH TIP UPWARDS:RIGHTWARDS;LEFTWARDS/2B12 SQUARE WITH * HALF BLACK:TOP;BOTTOM;
    UPPER RIGHT DIAGONAL;LOWER LEFT DIAGONAL/2B16 DIAMOND WITH * HALF BLACK:LEFT;RIGHT;TOP;BOTTOM/
    2B1A:DOTTED SQUARE/2B1B BLACK *|WHITE *:LARGE SQUARE;VERY SMALL SQUARE;PENTAGON/2B21 * HEXAGON:
    WHITE;BLACK;HORIZONTAL BLACK/2B24:BLACK LARGE CIRCLE/2B25 BLACK MEDIUM *|WHITE MEDIUM *:
    DIAMOND;LOZENGE/2B29:BLACK SMALL DIAMOND/2B2A BLACK *|WHITE *:SMALL LOZENGE;HORIZONTAL ELLIPSE;
    VERTICAL ELLIPSE/2B30:LEFT ARROW WITH SMALL CIRCLE;THREE LEFTWARDS ARROWS;
    LEFT ARROW WITH CIRCLED PLUS;LONG LEFTWARDS SQUIGGLE ARROW/2B34 LEFTWARDS TWO-HEADED *:
    ARROW WITH VERTICAL STROKE;ARROW WITH DOUBLE VERTICAL STROKE;ARROW FROM BAR;TRIPLE DASH ARROW/
    2B38 LEFTWARDS ARROW WITH *:DOTTED STEM;TAIL WITH VERTICAL STROKE;
    TAIL WITH DOUBLE VERTICAL STROKE/2B3B LEFTWARDS TWO-HEADED ARROW WITH *:TAIL;
    TAIL WITH VERTICAL STROKE;TAIL WITH DOUBLE VERTICAL STROKE/2B3E:LEFTWARDS ARROW THROUGH X;
    WAVE ARROW POINTING DIRECTLY LEFT/2B40 * ABOVE LEFTWARDS ARROW:EQUALS SIGN;
    REVERSE TILDE OPERATOR/2B42:LEFTWARDS ARROW ABOVE REVERSE ALMOST EQUAL TO/
    2B43 RIGHTWARDS ARROW THROUGH *:GREATER-THAN;SUPERSET/2B45 * QUADRUPLE ARROW:LEFTWARDS;
    RIGHTWARDS/2B47:REVERSE TILDE OPERATOR ABOVE RIGHTWARDS ARROW;
    RIGHTWARDS ARROW ABOVE REVERSE ALMOST EQUAL TO;TILDE OPERATOR ABOVE LEFTWARDS ARROW;
    LEFTWARDS ARROW ABOVE ALMOST EQUAL TO/2B4B * ARROW ABOVE REVERSE TILDE OPERATOR:LEFTWARDS;
    RIGHTWARDS/2B4D * ARROW:DOWNWARDS TRIANGLE-HEADED ZIGZAG;SHORT SLANTED NORTH;
    SHORT BACKSLANTED SOUTH/2B50:WHITE MEDIUM STAR/2B51 BLACK *|WHITE *:SMALL STAR;
    RIGHT-POINTING PENTAGON/2B55 HEAVY *:LARGE CIRCLE;OVAL WITH OVAL INSIDE;
    CIRCLE WITH CIRCLE INSIDE;CIRCLE;CIRCLED SALTIRE/2B5A:SLANTED NORTH ARROW WITH HOOKED HEAD;
    BACKSLANTED SOUTH ARROW WITH HOOKED TAIL/2B5C * ARROW WITH HORIZONTAL TAIL:SLANTED NORTH;
    BACKSLANTED SOUTH/2B5E * ARROW POINTING DOWNWARDS THEN NORTH EAST:BENT;SHORT BENT/
    2B60 * TRIANGLE-HEADED ARROW:LEFTWARDS;UPWARDS;RIGHTWARDS;DOWNWARDS;LEFT RIGHT;UP DOWN;
    NORTH WEST;NORTH EAST;SOUTH EAST;SOUTH WEST/2B6A * TRIANGLE-HEADED DASHED ARROW:LEFTWARDS;
    UPWARDS;RIGHTWARDS;DOWNWARDS/2B6E * TRIANGLE-HEADED OPEN CIRCLE ARROW:CLOCKWISE;ANTICLOCKWISE/
    2B70 * TRIANGLE-HEADED ARROW TO BAR:LEFTWARDS;UPWARDS;RIGHTWARDS;DOWNWARDS/
    2B76 * TRIANGLE-HEADED ARROW TO BAR:NORTH WEST;NORTH EAST;SOUTH EAST;SOUTH WEST/
    2B7A * TRIANGLE-HEADED ARROW WITH DOUBLE HORIZONTAL STROKE:LEFTWARDS;UPWARDS;RIGHTWARDS;
    DOWNWARDS/2B7E * TAB KEY:HORIZONTAL;VERTICAL/2B80 * TRIANGLE-HEADED ARROW:
    LEFTWARDS TRIANGLE-HEADED ARROW OVER RIGHTWARDS;
    UPWARDS TRIANGLE-HEADED ARROW LEFTWARDS OF DOWNWARDS;
    RIGHTWARDS TRIANGLE-HEADED ARROW OVER LEFTWARDS;
    DOWNWARDS TRIANGLE-HEADED ARROW LEFTWARDS OF UPWARDS/2B84 LEFTWARDS *|UPWARDS *|RIGHTWARDS *|
    DOWNWARDS *:TRIANGLE-HEADED PAIRED ARROWS;BLACK CIRCLED WHITE ARROW/
    2B8C ANTICLOCKWISE TRIANGLE-HEADED * U-SHAPED ARROW:RIGHT;BOTTOM;LEFT;TOP/2B90 * LEFT|* RIGHT:
    RETURN;NEWLINE/2B94:FOUR CORNER ARROWS CIRCLING ANTICLOCKWISE;RIGHTWARDS BLACK ARROW/
    2B97:SYMBOL FOR TYPE A ELECTRONICS/2B98 THREE-D * EQUILATERAL ARROWHEAD:TOP-LIGHTED LEFTWARDS;
    RIGHT-LIGHTED UPWARDS;TOP-LIGHTED RIGHTWARDS;LEFT-LIGHTED DOWNWARDS/
    2B9C BLACK * EQUILATERAL ARROWHEAD:LEFTWARDS;UPWARDS;RIGHTWARDS;DOWNWARDS/
    2BA0 * TRIANGLE-HEADED ARROW WITH LONG TIP LEFTWARDS|
    * TRIANGLE-HEADED ARROW WITH LONG TIP RIGHTWARDS:DOWNWARDS;UPWARDS/
    2BA4 LEFTWARDS TRIANGLE-HEADED ARROW WITH LONG TIP *|
    RIGHTWARDS TRIANGLE-HEADED ARROW WITH LONG TIP *:UPWARDS;DOWNWARDS/
    2BA8 BLACK CURVED * AND LEFTWARDS ARROW|BLACK CURVED * AND RIGHTWARDS ARROW:DOWNWARDS;UPWARDS/
    2BAC BLACK CURVED LEFTWARDS AND * ARROW|BLACK CURVED RIGHTWARDS AND * ARROW:UPWARDS;DOWNWARDS/
    2BB0 RIBBON ARROW *:DOWN LEFT;DOWN RIGHT;UP LEFT;UP RIGHT;LEFT UP;RIGHT UP;LEFT DOWN;
    RIGHT DOWN/2BB8:UPWARDS WHITE ARROW FROM BAR WITH HORIZONTAL BAR;
    UP ARROWHEAD IN A RECTANGLE BOX/2BBA OVERLAPPING * SQUARES:WHITE;WHITE AND BLACK;BLACK/
    2BBD:BALLOT BOX WITH LIGHT X;CIRCLED X;CIRCLED BOLD X;BLACK SQUARE CENTRED;
    BLACK DIAMOND CENTRED;TURNED BLACK PENTAGON;HORIZONTAL BLACK OCTAGON;BLACK OCTAGON/
    2BC5 BLACK MEDIUM *-POINTING TRIANGLE CENTRED:UP;DOWN;LEFT;RIGHT/2BC9:NEPTUNE FORM TWO/
    2BCA * HALF BLACK CIRCLE:TOP;BOTTOM/2BCC * CUSP|ROTATED * CUSP:LIGHT FOUR POINTED BLACK;
    WHITE FOUR POINTED/2BD0:SQUARE POSITION INDICATOR;UNCERTAINTY SIGN;GROUP MARK/
    2BD3 PLUTO FORM *:TWO;THREE;FOUR;FIVE/2BD7:TRANSPLUTO;PROSERPINA;ASTRAEA;HYGIEA;PHOLUS;NESSUS;
    WHITE MOON SELENA;BLACK DIAMOND ON CROSS;TRUE LIGHT MOON ARTA;CUPIDO;HADES;ZEUS;KRONOS;APOLLON;
    ADMETOS;VULCANUS;POSEIDON/2BE8 * HALF BLACK STAR:LEFT;RIGHT/2BEA STAR WITH * HALF BLACK:LEFT;
    RIGHT/2BEC * TWO-HEADED ARROW WITH TRIANGLE ARROWHEADS:LEFTWARDS;UPWARDS;RIGHTWARDS;DOWNWARDS/
    2BF0 ERIS FORM *:ONE;TWO/2BF2:SEDNA/2BF3 RUSSIAN ASTROLOGICAL SYMBOL *:VIGINTILE;NOVILE;
    QUINTILE;BINOVILE;SENTAGON;TREDECILE/2BF9:EQUALS SIGN WITH INFINITY BELOW/2BFA * SYMBOL:UNITED;
    SEPARATED;DOUBLED;PASSED/2BFE:REVERSED RIGHT ANGLE;HELLSCHREIBER PAUSE SYMBOL/
    2C00 GLAGOLITIC CAPITAL LETTER *:AZU;BUKY;VEDE;GLAGOLI;DOBRO;YESTU;ZHIVETE;DZELO;ZEMLJA;IZHE;
    INITIAL IZHE;I;DJERVI;KAKO;LJUDIJE;MYSLITE;NASHI;ONU;POKOJI;RITSI;SLOVO;TVRIDO;UKU;FRITU;HERU;
    OTU;PE;SHTA;TSI;CHRIVI;SHA;YERU;YERI;YATI;SPIDERY HA;YU;SMALL YUS;SMALL YUS WITH TAIL;YO;
    IOTATED SMALL YUS;BIG YUS;IOTATED BIG YUS;FITA;IZHITSA;SHTAPIC;TROKUTASTI A;LATINATE MYSLITE;
    CAUDATE CHRIVI/2C30 GLAGOLITIC SMALL LETTER *:AZU;BUKY;VEDE;GLAGOLI;DOBRO;YESTU;ZHIVETE;DZELO;
    ZEMLJA;IZHE;INITIAL IZHE;I;DJERVI;KAKO;LJUDIJE;MYSLITE;NASHI;ONU;POKOJI;RITSI;SLOVO;TVRIDO;UKU;
    FRITU;HERU;OTU;PE;SHTA;TSI;CHRIVI;SHA;YERU;YERI;YATI;SPIDERY HA;YU;SMALL YUS;
    SMALL YUS WITH TAIL;YO;IOTATED SMALL YUS;BIG YUS;IOTATED BIG YUS;FITA;IZHITSA;SHTAPIC;
    TROKUTASTI A;LATINATE MYSLITE;CAUDATE CHRIVI/2C60 LATIN * LETTER L WITH DOUBLE BAR:CAPITAL;
    SMALL/2C62 LATIN CAPITAL LETTER *:L WITH MIDDLE TILDE;P WITH STROKE;R WITH TAIL/
    2C65 LATIN SMALL LETTER * STROKE:A WITH;T WITH DIAGONAL/
    2C67 LATIN CAPITAL LETTER * WITH DESCENDER|LATIN SMALL LETTER * WITH DESCENDER:H;K;Z/
    2C6D LATIN CAPITAL LETTER *:ALPHA;M WITH HOOK;TURNED A;TURNED ALPHA/2C71 LATIN *:
    SMALL LETTER V WITH RIGHT HOOK;CAPITAL LETTER W WITH HOOK;SMALL LETTER W WITH HOOK;
    SMALL LETTER V WITH CURL;CAPITAL LETTER HALF H/2C76 LATIN SMALL LETTER *:HALF H;TAILLESS PHI;
    E WITH NOTCH;TURNED R WITH TAIL;O WITH LOW RING INSIDE/
    2C7B:LATIN LETTER SMALL CAPITAL TURNED E;LATIN SUBSCRIPT SMALL LETTER J;
    MODIFIER LETTER CAPITAL V/2C7E LATIN CAPITAL LETTER * WITH SWASH TAIL:S;Z/
    2C80 COPTIC CAPITAL LETTER *|COPTIC SMALL LETTER *:ALFA;VIDA;GAMMA;DALDA;EIE;SOU;ZATA;HATE;
    THETHE;IAUDA;KAPA;LAULA;MI;NI;KSI;O;PI;RO;SIMA;TAU;UA;FI;KHI;PSI;OOU;DIALECT-P ALEF;
    OLD COPTIC AIN;CRYPTOGRAMMIC EIE;DIALECT-P KAPA;DIALECT-P NI;CRYPTOGRAMMIC NI;OLD COPTIC OOU;
    SAMPI;CROSSED SHEI;OLD COPTIC SHEI;OLD COPTIC ESH;AKHMIMIC KHEI;DIALECT-P HORI;OLD COPTIC HORI;
    OLD COPTIC HA;L-SHAPED HA;OLD COPTIC HEI;OLD COPTIC HAT;OLD COPTIC GANGIA;OLD COPTIC DJA;
    OLD COPTIC SHIMA;OLD NUBIAN SHIMA;OLD NUBIAN NGI;OLD NUBIAN NYI;OLD NUBIAN WAU/
    2CE4 COPTIC SYMBOL *:KAI;MI RO;PI RO;STAUROS;TAU RO;KHI RO;SHIMA SIMA/
    2CEB COPTIC CAPITAL LETTER CRYPTOGRAMMIC *|COPTIC SMALL LETTER CRYPTOGRAMMIC *:SHEI;GANGIA/
    2CEF COPTIC COMBINING *:NI ABOVE;SPIRITUS ASPER;SPIRITUS LENIS/
    2CF2 COPTIC * LETTER BOHAIRIC KHEI:CAPITAL;SMALL/2CF9 COPTIC OLD NUBIAN *:FULL STOP;
    DIRECT QUESTION MARK;INDIRECT QUESTION MARK;VERSE DIVIDER/2CFD COPTIC *:FRACTION ONE HALF;
    FULL STOP;MORPHOLOGICAL DIVIDER/2D00 GEORGIAN SMALL LETTER *:AN;BAN;GAN;DON;EN;VIN;ZEN;TAN;IN;
    KAN;LAS;MAN;NAR;ON;PAR;ZHAR;RAE;SAN;TAR;UN;PHAR;KHAR;GHAN;QAR;SHIN;CHIN;CAN;JIL;CIL;CHAR;XAN;
    JHAN;HAE;HE;HIE;WE;HAR;HOE/2D27:GEORGIAN SMALL LETTER YN/2D2D:GEORGIAN SMALL LETTER AEN/
    2D30 TIFINAGH LETTER *:YA;YAB;YABH;YAG;YAGHH;BERBER ACADEMY YAJ;YAJ;YAD;YADH;YADD;YADDH;YEY;
    YAF;YAK;TUAREG YAK;YAKHH;YAH;BERBER ACADEMY YAH;TUAREG YAH;YAHH;YAA;YAKH;TUAREG YAKH;YAQ;
    TUAREG YAQ;YI;YAZH;AHAGGAR YAZH;TUAREG YAZH;YAL;YAM;YAN;TUAREG YAGN;TUAREG YANG;YAP;YU;YAR;
    YARR;YAGH;TUAREG YAGH;AYER YAGH;YAS;YASS;YASH;YAT;YATH;YACH;YATT;YAV;YAW;YAY;YAZ;
    TAWELLEMET YAZ;YAZZ;YE;YO/2D6F TIFINAGH * MARK:MODIFIER LETTER LABIALIZATION;SEPARATOR/
    2D7F:TIFINAGH CONSONANT JOINER/2D80 ETHIOPIC SYLLABLE *:LOA;MOA;ROA;SOA;SHOA;BOA;TOA;COA;NOA;
    NYOA;GLOTTAL OA;ZOA;DOA;DDOA;JOA;THOA;CHOA;PHOA;POA;GGWA;GGWI;GGWEE;GGWE/
    2DA0 ETHIOPIC SYLLABLE *:SSA;SSU;SSI;SSAA;SSEE;SSE;SSO/2DA8 ETHIOPIC SYLLABLE *:CCA;CCU;CCI;
    CCAA;CCEE;CCE;CCO/2DB0 ETHIOPIC SYLLABLE *:ZZA;ZZU;ZZI;ZZAA;ZZEE;ZZE;ZZO/
    2DB8 ETHIOPIC SYLLABLE *:CCHA;CCHU;CCHI;CCHAA;CCHEE;CCHE;CCHO/2DC0 ETHIOPIC SYLLABLE *:QYA;QYU;
    QYI;QYAA;QYEE;QYE;QYO/2DC8 ETHIOPIC SYLLABLE *:KYA;KYU;KYI;KYAA;KYEE;KYE;KYO/
    2DD0 ETHIOPIC SYLLABLE *:XYA;XYU;XYI;XYAA;XYEE;XYE;XYO/2DD8 ETHIOPIC SYLLABLE *:GYA;GYU;GYI;
    GYAA;GYEE;GYE;GYO/2DE0 COMBINING CYRILLIC LETTER *:BE;VE;GHE;DE;ZHE;ZE;KA;EL;EM;EN;O;PE;ER;ES;
    TE;HA;TSE;CHE;SHA;SHCHA;FITA;ES-TE;A;IE;DJERV;MONOGRAPH UK;YAT;YU;IOTIFIED A;LITTLE YUS;
    BIG YUS;IOTIFIED BIG YUS/2E00 RIGHT ANGLE * MARKER:SUBSTITUTION;DOTTED SUBSTITUTION/
    2E02 * SUBSTITUTION BRACKET:LEFT;RIGHT;LEFT DOTTED;RIGHT DOTTED/2E06 * MARKER:
    RAISED INTERPOLATION;RAISED DOTTED INTERPOLATION;DOTTED TRANSPOSITION/
    2E09 * TRANSPOSITION BRACKET:LEFT;RIGHT/2E0B:RAISED SQUARE/2E0C * RAISED OMISSION BRACKET:LEFT;
    RIGHT/2E0E:EDITORIAL CORONIS;PARAGRAPHOS;FORKED PARAGRAPHOS;REVERSED FORKED PARAGRAPHOS;
    HYPODIASTOLE;DOTTED OBELOS;DOWNWARDS ANCORA;UPWARDS ANCORA;DOTTED RIGHT-POINTING ANGLE;
    DOUBLE OBLIQUE HYPHEN;INVERTED INTERROBANG;PALM BRANCH;HYPHEN WITH DIAERESIS;
    TILDE WITH RING ABOVE/2E1C * LOW PARAPHRASE BRACKET:LEFT;RIGHT/2E1E TILDE WITH DOT *:ABOVE;
    BELOW/2E20 * VERTICAL BAR WITH QUILL:LEFT;RIGHT/2E22 * LEFT HALF BRACKET|* RIGHT HALF BRACKET:
    TOP;BOTTOM/2E26 LEFT *|RIGHT *:SIDEWAYS U BRACKET;DOUBLE PARENTHESIS/2E2A * PUNCTUATION:
    TWO DOTS OVER ONE DOT;ONE DOT OVER TWO DOTS;SQUARED FOUR DOT/2E2D:FIVE DOT MARK;
    REVERSED QUESTION MARK;VERTICAL TILDE;RING POINT;WORD SEPARATOR MIDDLE DOT;TURNED COMMA;
    RAISED DOT;RAISED COMMA;TURNED SEMICOLON;DAGGER WITH LEFT GUARD;DAGGER WITH RIGHT GUARD;
    TURNED DAGGER;TOP HALF SECTION SIGN;TWO-EM DASH;THREE-EM DASH;STENOGRAPHIC FULL STOP;
    VERTICAL SIX DOTS;WIGGLY VERTICAL LINE;CAPITULUM;DOUBLE HYPHEN;REVERSED COMMA;
    DOUBLE LOW-REVERSED-9 QUOTATION MARK;DASH WITH LEFT UPTURN;DOUBLE SUSPENSION MARK;
    INVERTED LOW KAVYKA;INVERTED LOW KAVYKA WITH KAVYKA ABOVE;LOW KAVYKA;LOW KAVYKA WITH DOT;
    DOUBLE STACKED COMMA;DOTTED SOLIDUS;TRIPLE DAGGER;MEDIEVAL COMMA;PARAGRAPHUS MARK;
    PUNCTUS ELEVATUS MARK;CORNISH VERSE DIVIDER/2E50 CROSS PATTY WITH * CROSSBAR:RIGHT;LEFT/
    2E52:TIRONIAN SIGN CAPITAL ET/2E53 MEDIEVAL * MARK:EXCLAMATION;QUESTION/
    2E55 LEFT SQUARE BRACKET WITH *|RIGHT SQUARE BRACKET WITH *:STROKE;DOUBLE STROKE/
    2E59 * HALF LEFT PARENTHESIS|* HALF RIGHT PARENTHESIS:TOP;BOTTOM/2E5D:OBLIQUE HYPHEN/
    2E80 CJK RADICAL *:REPEAT;CLIFF;SECOND ONE;SECOND TWO;SECOND THREE;PERSON;BOX;TABLE;KNIFE ONE;
    KNIFE TWO;DIVINATION;SEAL;SMALL ONE;SMALL TWO;LAME ONE;LAME TWO;LAME THREE;LAME FOUR;SNAKE;
    THREAD;SNOUT ONE;SNOUT TWO;HEART ONE;HEART TWO;HAND;RAP/2E9B CJK RADICAL *:CHOKE;SUN;MOON;
    DEATH;MOTHER;CIVILIAN;WATER ONE;WATER TWO;FIRE;PAW ONE;PAW TWO;SIMPLIFIED HALF TREE TRUNK;COW;
    DOG;JADE;BOLT OF CLOTH;EYE;SPIRIT ONE;SPIRIT TWO;BAMBOO;SILK;C-SIMPLIFIED SILK;NET ONE;NET TWO;
    NET THREE;NET FOUR;MESH;SHEEP;RAM;EWE;OLD;BRUSH ONE;BRUSH TWO;MEAT;MORTAR;GRASS ONE;GRASS TWO;
    GRASS THREE;TIGER;CLOTHES;WEST ONE;WEST TWO;C-SIMPLIFIED SEE;SIMPLIFIED HORN;HORN;
    C-SIMPLIFIED SPEECH;C-SIMPLIFIED SHELL;FOOT;C-SIMPLIFIED CART;SIMPLIFIED WALK;WALK ONE;
    WALK TWO;CITY;C-SIMPLIFIED GOLD;LONG ONE;LONG TWO;C-SIMPLIFIED LONG;C-SIMPLIFIED GATE;
    MOUND ONE;MOUND TWO;RAIN;BLUE;C-SIMPLIFIED TANNED LEATHER;C-SIMPLIFIED LEAF;C-SIMPLIFIED WIND;
    C-SIMPLIFIED FLY;EAT ONE;EAT TWO;EAT THREE;C-SIMPLIFIED EAT;HEAD;C-SIMPLIFIED HORSE;BONE;GHOST;
    C-SIMPLIFIED FISH;C-SIMPLIFIED BIRD;C-SIMPLIFIED SALT;SIMPLIFIED WHEAT;SIMPLIFIED YELLOW;
    C-SIMPLIFIED FROG/2EEB CJK RADICAL J-SIMPLIFIED *|CJK RADICAL C-SIMPLIFIED *:EVEN;TOOTH;DRAGON/
    2EF1 CJK RADICAL *:TURTLE;J-SIMPLIFIED TURTLE;C-SIMPLIFIED TURTLE/2F00 KANGXI RADICAL *:ONE;
    LINE;DOT;SLASH;SECOND;HOOK;TWO;LID;MAN;LEGS;ENTER;EIGHT;DOWN BOX;COVER;ICE;TABLE;OPEN BOX;
    KNIFE;POWER;WRAP;SPOON;RIGHT OPEN BOX;HIDING ENCLOSURE;TEN;DIVINATION;SEAL;CLIFF;PRIVATE;AGAIN;
    MOUTH;ENCLOSURE;EARTH;SCHOLAR;GO;GO SLOWLY;EVENING;BIG;WOMAN;CHILD;ROOF;INCH;SMALL;LAME;CORPSE;
    SPROUT;MOUNTAIN;RIVER;WORK;ONESELF;TURBAN;DRY;SHORT THREAD;DOTTED CLIFF;LONG STRIDE;TWO HANDS;
    SHOOT;BOW;SNOUT;BRISTLE;STEP;HEART;HALBERD;DOOR;HAND;BRANCH;RAP;SCRIPT;DIPPER;AXE;SQUARE;NOT;
    SUN;SAY;MOON;TREE;LACK;STOP;DEATH;WEAPON;DO NOT;COMPARE;FUR;CLAN;STEAM;WATER;FIRE;CLAW;FATHER;
    DOUBLE X;HALF TREE TRUNK;SLICE;FANG;COW;DOG;PROFOUND;JADE;MELON;TILE;SWEET;LIFE;USE;FIELD;
    BOLT OF CLOTH;SICKNESS;DOTTED TENT;WHITE;SKIN;DISH;EYE;SPEAR;ARROW;STONE;SPIRIT;TRACK;GRAIN;
    CAVE;STAND;BAMBOO;RICE;SILK;JAR;NET;SHEEP;FEATHER;OLD;AND;PLOW;EAR;BRUSH;MEAT;MINISTER;SELF;
    ARRIVE;MORTAR;TONGUE;OPPOSE;BOAT;STOPPING;COLOR;GRASS;TIGER;INSECT;BLOOD;WALK ENCLOSURE;
    CLOTHES;WEST;SEE;HORN;SPEECH;VALLEY;BEAN;PIG;BADGER;SHELL;RED;RUN;FOOT;BODY;CART;BITTER;
    MORNING;WALK;CITY;WINE;DISTINGUISH;VILLAGE;GOLD;LONG;GATE;MOUND;SLAVE;SHORT TAILED BIRD;RAIN;
    BLUE;WRONG;FACE;LEATHER;TANNED LEATHER;LEEK;SOUND;LEAF;WIND;FLY;EAT;HEAD;FRAGRANT;HORSE;BONE;
    TALL;HAIR;FIGHT;SACRIFICIAL WINE;CAULDRON;GHOST;FISH;BIRD;SALT;DEER;WHEAT;HEMP;YELLOW;MILLET;
    BLACK;EMBROIDERY;FROG;TRIPOD;DRUM;RAT;NOSE;EVEN;TOOTH;DRAGON;TURTLE;FLUTE/
    2FF0 IDEOGRAPHIC DESCRIPTION CHARACTER *:LEFT TO RIGHT;ABOVE TO BELOW;LEFT TO MIDDLE AND RIGHT;
    ABOVE TO MIDDLE AND BELOW;FULL SURROUND;SURROUND FROM ABOVE;SURROUND FROM BELOW;
    SURROUND FROM LEFT;SURROUND FROM UPPER LEFT;SURROUND FROM UPPER RIGHT;SURROUND FROM LOWER LEFT;
    OVERLAID"

end DocSuite.Text
