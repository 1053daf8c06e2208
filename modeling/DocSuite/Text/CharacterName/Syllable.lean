/-!
The names of syllables, and of letters in their forms of presentation.
-/
namespace DocSuite.Text

def syllableNames : String :=
  "3000 IDEOGRAPHIC *:SPACE;COMMA;FULL STOP/3003:DITTO MARK;JAPANESE INDUSTRIAL STANDARD SYMBOL/
    3005 IDEOGRAPHIC *:ITERATION MARK;CLOSING MARK;NUMBER ZERO/3008 LEFT * BRACKET|RIGHT * BRACKET:
    ANGLE;DOUBLE ANGLE;CORNER;WHITE CORNER;BLACK LENTICULAR/3012 * MARK:POSTAL;GETA/
    3014 LEFT * BRACKET|RIGHT * BRACKET:TORTOISE SHELL;WHITE LENTICULAR;WHITE TORTOISE SHELL;
    WHITE SQUARE/301C:WAVE DASH/301D * PRIME QUOTATION MARK:REVERSED DOUBLE;DOUBLE;LOW DOUBLE/
    3020:POSTAL MARK FACE/3021 HANGZHOU NUMERAL *:ONE;TWO;THREE;FOUR;FIVE;SIX;SEVEN;EIGHT;NINE/
    302A IDEOGRAPHIC * TONE MARK:LEVEL;RISING;DEPARTING;ENTERING/302E HANGUL * DOT TONE MARK:
    SINGLE;DOUBLE/3030:WAVY DASH/3031 VERTICAL KANA REPEAT *:MARK;WITH VOICED SOUND MARK;
    MARK UPPER HALF;WITH VOICED SOUND MARK UPPER HALF;MARK LOWER HALF/3036:CIRCLED POSTAL MARK;
    IDEOGRAPHIC TELEGRAPH LINE FEED SEPARATOR SYMBOL/3038 HANGZHOU NUMERAL *:TEN;TWENTY;THIRTY/
    303B * MARK:VERTICAL IDEOGRAPHIC ITERATION;MASU;PART ALTERNATION/303E IDEOGRAPHIC *:
    VARIATION INDICATOR;HALF FILL SPACE/3041 HIRAGANA LETTER *:SMALL A;A;SMALL I;I;SMALL U;U;
    SMALL E;E;SMALL O;O;KA;GA;KI;GI;KU;GU;KE;GE;KO;GO;SA;ZA;SI;ZI;SU;ZU;SE;ZE;SO;ZO;TA;DA;TI;DI;
    SMALL TU;TU;DU;TE;DE;TO;DO;NA;NI;NU;NE;NO;HA;BA;PA;HI;BI;PI;HU;BU;PU;HE;BE;PE;HO;BO;PO;MA;MI;
    MU;ME;MO;SMALL YA;YA;SMALL YU;YU;SMALL YO;YO;RA;RI;RU;RE;RO;SMALL WA;WA;WI;WE;WO;N;VU;SMALL KA;
    SMALL KE/3099 *-HIRAGANA VOICED SOUND MARK|*-HIRAGANA SEMI-VOICED SOUND MARK:
    COMBINING KATAKANA;KATAKANA/309D HIRAGANA *:ITERATION MARK;VOICED ITERATION MARK;DIGRAPH YORI/
    30A0:KATAKANA-HIRAGANA DOUBLE HYPHEN/30A1 KATAKANA LETTER *:SMALL A;A;SMALL I;I;SMALL U;U;
    SMALL E;E;SMALL O;O;KA;GA;KI;GI;KU;GU;KE;GE;KO;GO;SA;ZA;SI;ZI;SU;ZU;SE;ZE;SO;ZO;TA;DA;TI;DI;
    SMALL TU;TU;DU;TE;DE;TO;DO;NA;NI;NU;NE;NO;HA;BA;PA;HI;BI;PI;HU;BU;PU;HE;BE;PE;HO;BO;PO;MA;MI;
    MU;ME;MO;SMALL YA;YA;SMALL YU;YU;SMALL YO;YO;RA;RI;RU;RE;RO;SMALL WA;WA;WI;WE;WO;N;VU;SMALL KA;
    SMALL KE;VA;VI;VE;VO/30FB:KATAKANA MIDDLE DOT;KATAKANA-HIRAGANA PROLONGED SOUND MARK/
    30FD KATAKANA *:ITERATION MARK;VOICED ITERATION MARK;DIGRAPH KOTO/3105 BOPOMOFO LETTER *:B;P;M;
    F;D;T;N;L;G;K;H;J;Q;X;ZH;CH;SH;R;Z;C;S;A;O;E;EH;AI;EI;AU;OU;AN;EN;ANG;ENG;ER;I;U;IU;V;NG;GN;IH;
    O WITH DOT ABOVE;NN/3131 HANGUL LETTER *:KIYEOK;SSANGKIYEOK;KIYEOK-SIOS;NIEUN;NIEUN-CIEUC;
    NIEUN-HIEUH;TIKEUT;SSANGTIKEUT;RIEUL;RIEUL-KIYEOK;RIEUL-MIEUM;RIEUL-PIEUP;RIEUL-SIOS;
    RIEUL-THIEUTH;RIEUL-PHIEUPH;RIEUL-HIEUH;MIEUM;PIEUP;SSANGPIEUP;PIEUP-SIOS;SIOS;SSANGSIOS;IEUNG;
    CIEUC;SSANGCIEUC;CHIEUCH;KHIEUKH;THIEUTH;PHIEUPH;HIEUH;A;AE;YA;YAE;EO;E;YEO;YE;O;WA;WAE;OE;YO;
    U;WEO;WE;WI;YU;EU;YI;I/3164:HANGUL FILLER/3165 HANGUL LETTER *:SSANGNIEUN;NIEUN-TIKEUT;
    NIEUN-SIOS;NIEUN-PANSIOS;RIEUL-KIYEOK-SIOS;RIEUL-TIKEUT;RIEUL-PIEUP-SIOS;RIEUL-PANSIOS;
    RIEUL-YEORINHIEUH;MIEUM-PIEUP;MIEUM-SIOS;MIEUM-PANSIOS;KAPYEOUNMIEUM;PIEUP-KIYEOK;PIEUP-TIKEUT;
    PIEUP-SIOS-KIYEOK;PIEUP-SIOS-TIKEUT;PIEUP-CIEUC;PIEUP-THIEUTH;KAPYEOUNPIEUP;KAPYEOUNSSANGPIEUP;
    SIOS-KIYEOK;SIOS-NIEUN;SIOS-TIKEUT;SIOS-PIEUP;SIOS-CIEUC;PANSIOS;SSANGIEUNG;YESIEUNG;
    YESIEUNG-SIOS;YESIEUNG-PANSIOS;KAPYEOUNPHIEUPH;SSANGHIEUH;YEORINHIEUH;YO-YA;YO-YAE;YO-I;YU-YEO;
    YU-YE;YU-I;ARAEA;ARAEAE/3190 IDEOGRAPHIC ANNOTATION * MARK:LINKING;REVERSE;ONE;TWO;THREE;FOUR;
    TOP;MIDDLE;BOTTOM;FIRST;SECOND;THIRD;FOURTH;HEAVEN;EARTH;MAN/31A0 BOPOMOFO LETTER *:BU;ZI;JI;
    GU;EE;ENN;OO;ONN;IR;ANN;INN;UNN;IM;NGG;AINN;AUNN;AM;OM;ONG;INNN/31B4 BOPOMOFO FINAL LETTER *:P;
    T;K;H/31B8 BOPOMOFO *:LETTER GH;LETTER LH;LETTER ZY;FINAL LETTER G/31BC BOPOMOFO LETTER *:GW;
    KW;OE;AH/31C0 CJK STROKE *:T;WG;XG;BXG;SW;HZZ;HZG;HP;HZWG;SZWG;HZT;HZZP;HPWG;HZW;HZZZ;N;H;S;P;
    SP;D;HZ;HG;SZ;SWZ;ST;SG;PD;PZ;TN;SZZ;SWG;HXWG;HZZZG;PG;Q/31F0 KATAKANA LETTER SMALL *:KU;SI;SU;
    TO;NU;HA;HI;HU;HE;HO;MU;RA;RI;RU;RE;RO/3200 PARENTHESIZED HANGUL *:KIYEOK;NIEUN;TIKEUT;RIEUL;
    MIEUM;PIEUP;SIOS;IEUNG;CIEUC;CHIEUCH;KHIEUKH;THIEUTH;PHIEUPH;HIEUH;KIYEOK A;NIEUN A;TIKEUT A;
    RIEUL A;MIEUM A;PIEUP A;SIOS A;IEUNG A;CIEUC A;CHIEUCH A;KHIEUKH A;THIEUTH A;PHIEUPH A;HIEUH A;
    CIEUC U/321D PARENTHESIZED KOREAN CHARACTER *:OJEON;O HU/3220 PARENTHESIZED IDEOGRAPH *:ONE;
    TWO;THREE;FOUR;FIVE;SIX;SEVEN;EIGHT;NINE;TEN;MOON;FIRE;WATER;WOOD;METAL;EARTH;SUN;STOCK;HAVE;
    SOCIETY;NAME;SPECIAL;FINANCIAL;CONGRATULATION;LABOR;REPRESENT;CALL;STUDY;SUPERVISE;ENTERPRISE;
    RESOURCE;ALLIANCE;FESTIVAL;REST;SELF;REACH/3244 CIRCLED IDEOGRAPH *:QUESTION;KINDERGARTEN;
    SCHOOL;KOTO/3248 CIRCLED NUMBER * ON BLACK SQUARE:TEN;TWENTY;THIRTY;FORTY;FIFTY;SIXTY;SEVENTY;
    EIGHTY/3250:PARTNERSHIP SIGN/3251 CIRCLED NUMBER TWENTY *:ONE;TWO;THREE;FOUR;FIVE;SIX;SEVEN;
    EIGHT;NINE/325A:CIRCLED NUMBER THIRTY/325B CIRCLED NUMBER THIRTY *:ONE;TWO;THREE;FOUR;FIVE/
    3260 CIRCLED HANGUL *:KIYEOK;NIEUN;TIKEUT;RIEUL;MIEUM;PIEUP;SIOS;IEUNG;CIEUC;CHIEUCH;KHIEUKH;
    THIEUTH;PHIEUPH;HIEUH;KIYEOK A;NIEUN A;TIKEUT A;RIEUL A;MIEUM A;PIEUP A;SIOS A;IEUNG A;CIEUC A;
    CHIEUCH A;KHIEUKH A;THIEUTH A;PHIEUPH A;HIEUH A/327C CIRCLED KOREAN CHARACTER *:CHAMKO;JUEUI/
    327E:CIRCLED HANGUL IEUNG U;KOREAN STANDARD SYMBOL/3280 CIRCLED IDEOGRAPH *:ONE;TWO;THREE;FOUR;
    FIVE;SIX;SEVEN;EIGHT;NINE;TEN;MOON;FIRE;WATER;WOOD;METAL;EARTH;SUN;STOCK;HAVE;SOCIETY;NAME;
    SPECIAL;FINANCIAL;CONGRATULATION;LABOR;SECRET;MALE;FEMALE;SUITABLE;EXCELLENT;PRINT;ATTENTION;
    ITEM;REST;COPY;CORRECT;HIGH;CENTRE;LOW;LEFT;RIGHT;MEDICINE;RELIGION;STUDY;SUPERVISE;ENTERPRISE;
    RESOURCE;ALLIANCE;NIGHT/32B1 CIRCLED NUMBER *:THIRTY SIX;THIRTY SEVEN;THIRTY EIGHT;THIRTY NINE;
    FORTY/32B6 CIRCLED NUMBER FORTY *:ONE;TWO;THREE;FOUR;FIVE;SIX;SEVEN;EIGHT;NINE/
    32BF:CIRCLED NUMBER FIFTY/32C0 IDEOGRAPHIC TELEGRAPH SYMBOL FOR *:JANUARY;FEBRUARY;MARCH;APRIL;
    MAY;JUNE;JULY;AUGUST;SEPTEMBER;OCTOBER;NOVEMBER;DECEMBER/32CC SQUARE *:HG;ERG;EV/
    32CF:LIMITED LIABILITY SIGN/32D0 CIRCLED KATAKANA *:A;I;U;E;O;KA;KI;KU;KE;KO;SA;SI;SU;SE;SO;TA;
    TI;TU;TE;TO;NA;NI;NU;NE;NO;HA;HI;HU;HE;HO;MA;MI;MU;ME;MO;YA;YU;YO;RA;RI;RU;RE;RO;WA;WI;WE;WO/
    32FF SQUARE *:ERA NAME REIWA;APAATO;ARUHUA;ANPEA;AARU;ININGU;INTI;UON;ESUKUUDO;EEKAA;ONSU;OOMU;
    KAIRI;KARATTO;KARORII;GARON;GANMA;GIGA;GINII;KYURII;GIRUDAA;KIRO;KIROGURAMU;KIROMEETORU;
    KIROWATTO;GURAMU;GURAMUTON;KURUZEIRO;KUROONE;KEESU;KORUNA;KOOPO;SAIKURU;SANTIIMU;SIRINGU;SENTI;
    SENTO;DAASU;DESI;DORU;TON;NANO;NOTTO;HAITU;PAASENTO;PAATU;BAARERU;PIASUTORU;PIKURU;PIKO;BIRU;
    HUARADDO;HUIITO;BUSSYERU;HURAN;HEKUTAARU;PESO;PENIHI;HERUTU;PENSU;PEEZI;BEETA;POINTO;BORUTO;
    HON;PONDO;HOORU;HOON;MAIKURO;MAIRU;MAHHA;MARUKU;MANSYON;MIKURON;MIRI;MIRIBAARU;MEGA;MEGATON;
    MEETORU;YAADO;YAARU;YUAN;RITTORU;RIRA;RUPII;RUUBURU;REMU;RENTOGEN;WATTO/
    3358 IDEOGRAPHIC TELEGRAPH SYMBOL FOR HOUR *:ZERO;ONE;TWO;THREE;FOUR;FIVE;SIX;SEVEN;EIGHT;NINE;
    TEN;ELEVEN;TWELVE;THIRTEEN;FOURTEEN;FIFTEEN;SIXTEEN;SEVENTEEN;EIGHTEEN;NINETEEN;TWENTY;
    TWENTY-ONE;TWENTY-TWO;TWENTY-THREE;TWENTY-FOUR/3371 SQUARE *:HPA;DA;AU;BAR;OV;PC;DM;DM SQUARED;
    DM CUBED;IU;ERA NAME HEISEI;ERA NAME SYOUWA;ERA NAME TAISYOU;ERA NAME MEIZI;CORPORATION;
    PA AMPS;NA;MU A;MA;KA;KB;MB;GB;CAL;KCAL;PF;NF;MU F;MU G;MG;KG;HZ;KHZ;MHZ;GHZ;THZ;MU L;ML;DL;KL;
    FM;NM;MU M;MM;CM;KM;MM SQUARED;CM SQUARED;M SQUARED;KM SQUARED;MM CUBED;CM CUBED;M CUBED;
    KM CUBED;M OVER S;M OVER S SQUARED;PA;KPA;MPA;GPA;RAD;RAD OVER S;RAD OVER S SQUARED;PS;NS;MU S;
    MS;PV;NV;MU V;MV;KV;MV MEGA;PW;NW;MU W;MW;KW;MW MEGA;K OHM;M OHM;AM;BQ;CC;CD;C OVER KG;CO;DB;
    GY;HA;HP;IN;KK;KM CAPITAL;KT;LM;LN;LOG;LX;MB SMALL;MIL;MOL;PH;PM;PPM;PR;SR;SV;WB;V OVER M;
    A OVER M/33E0 IDEOGRAPHIC TELEGRAPH SYMBOL FOR DAY *:ONE;TWO;THREE;FOUR;FIVE;SIX;SEVEN;EIGHT;
    NINE;TEN;ELEVEN;TWELVE;THIRTEEN;FOURTEEN;FIFTEEN;SIXTEEN;SEVENTEEN;EIGHTEEN;NINETEEN;TWENTY;
    TWENTY-ONE;TWENTY-TWO;TWENTY-THREE;TWENTY-FOUR;TWENTY-FIVE;TWENTY-SIX;TWENTY-SEVEN;
    TWENTY-EIGHT;TWENTY-NINE;THIRTY;THIRTY-ONE/33FF:SQUARE GAL/4DC0 HEXAGRAM FOR *:
    THE CREATIVE HEAVEN;THE RECEPTIVE EARTH;DIFFICULTY AT THE BEGINNING;YOUTHFUL FOLLY;WAITING;
    CONFLICT;THE ARMY;HOLDING TOGETHER;SMALL TAMING;TREADING;PEACE;STANDSTILL;FELLOWSHIP;
    GREAT POSSESSION;MODESTY;ENTHUSIASM;FOLLOWING;WORK ON THE DECAYED;APPROACH;CONTEMPLATION;
    BITING THROUGH;GRACE;SPLITTING APART;RETURN;INNOCENCE;GREAT TAMING;MOUTH CORNERS;
    GREAT PREPONDERANCE;THE ABYSMAL WATER;THE CLINGING FIRE;INFLUENCE;DURATION;RETREAT;GREAT POWER;
    PROGRESS;DARKENING OF THE LIGHT;THE FAMILY;OPPOSITION;OBSTRUCTION;DELIVERANCE;DECREASE;
    INCREASE;BREAKTHROUGH;COMING TO MEET;GATHERING TOGETHER;PUSHING UPWARD;OPPRESSION;THE WELL;
    REVOLUTION;THE CAULDRON;THE AROUSING THUNDER;THE KEEPING STILL MOUNTAIN;DEVELOPMENT;
    THE MARRYING MAIDEN;ABUNDANCE;THE WANDERER;THE GENTLE WIND;THE JOYOUS LAKE;DISPERSION;
    LIMITATION;INNER TRUTH;SMALL PREPONDERANCE;AFTER COMPLETION;BEFORE COMPLETION/
    A000 YI SYLLABLE *:IT;IX;I;IP;IET;IEX;IE;IEP;AT;AX;A;AP;UOX;UO;UOP;OT;OX;O;OP;EX;E;WU;BIT;BIX;
    BI;BIP;BIET;BIEX;BIE;BIEP;BAT;BAX;BA;BAP;BUOX;BUO;BUOP;BOT;BOX;BO;BOP;BEX;BE;BEP;BUT;BUX;BU;
    BUP;BURX;BUR;BYT;BYX;BY;BYP;BYRX;BYR;PIT;PIX;PI;PIP;PIEX;PIE;PIEP;PAT;PAX;PA;PAP;PUOX;PUO;PUOP;
    POT;POX;PO;POP;PUT;PUX;PU;PUP;PURX;PUR;PYT;PYX;PY;PYP;PYRX;PYR;BBIT;BBIX;BBI;BBIP;BBIET;BBIEX;
    BBIE;BBIEP;BBAT;BBAX;BBA;BBAP;BBUOX;BBUO;BBUOP;BBOT;BBOX;BBO;BBOP;BBEX;BBE;BBEP;BBUT;BBUX;BBU;
    BBUP;BBURX;BBUR;BBYT;BBYX;BBY;BBYP;NBIT;NBIX;NBI;NBIP;NBIEX;NBIE;NBIEP;NBAT;NBAX;NBA;NBAP;NBOT;
    NBOX;NBO;NBOP;NBUT;NBUX;NBU;NBUP;NBURX;NBUR;NBYT;NBYX;NBY;NBYP;NBYRX;NBYR;HMIT;HMIX;HMI;HMIP;
    HMIEX;HMIE;HMIEP;HMAT;HMAX;HMA;HMAP;HMUOX;HMUO;HMUOP;HMOT;HMOX;HMO;HMOP;HMUT;HMUX;HMU;HMUP;
    HMURX;HMUR;HMYX;HMY;HMYP;HMYRX;HMYR;MIT;MIX;MI;MIP;MIEX;MIE;MIEP;MAT;MAX;MA;MAP;MUOT;MUOX;MUO;
    MUOP;MOT;MOX;MO;MOP;MEX;ME;MUT;MUX;MU;MUP;MURX;MUR;MYT;MYX;MY;MYP;FIT;FIX;FI;FIP;FAT;FAX;FA;
    FAP;FOX;FO;FOP;FUT;FUX;FU;FUP;FURX;FUR;FYT;FYX;FY;FYP;VIT;VIX;VI;VIP;VIET;VIEX;VIE;VIEP;VAT;
    VAX;VA;VAP;VOT;VOX;VO;VOP;VEX;VEP;VUT;VUX;VU;VUP;VURX;VUR;VYT;VYX;VY;VYP;VYRX;VYR;DIT;DIX;DI;
    DIP;DIEX;DIE;DIEP;DAT;DAX;DA;DAP;DUOX;DUO;DOT;DOX;DO;DOP;DEX;DE;DEP;DUT;DUX;DU;DUP;DURX;DUR;
    TIT;TIX;TI;TIP;TIEX;TIE;TIEP;TAT;TAX;TA;TAP;TUOT;TUOX;TUO;TUOP;TOT;TOX;TO;TOP;TEX;TE;TEP;TUT;
    TUX;TU;TUP;TURX;TUR;DDIT;DDIX;DDI;DDIP;DDIEX;DDIE;DDIEP;DDAT;DDAX;DDA;DDAP;DDUOX;DDUO;DDUOP;
    DDOT;DDOX;DDO;DDOP;DDEX;DDE;DDEP;DDUT;DDUX;DDU;DDUP;DDURX;DDUR;NDIT;NDIX;NDI;NDIP;NDIEX;NDIE;
    NDAT;NDAX;NDA;NDAP;NDOT;NDOX;NDO;NDOP;NDEX;NDE;NDEP;NDUT;NDUX;NDU;NDUP;NDURX;NDUR;HNIT;HNIX;
    HNI;HNIP;HNIET;HNIEX;HNIE;HNIEP;HNAT;HNAX;HNA;HNAP;HNUOX;HNUO;HNOT;HNOX;HNOP;HNEX;HNE;HNEP;
    HNUT;NIT;NIX;NI;NIP;NIEX;NIE;NIEP;NAX;NA;NAP;NUOX;NUO;NUOP;NOT;NOX;NO;NOP;NEX;NE;NEP;NUT;NUX;
    NU;NUP;NURX;NUR;HLIT;HLIX;HLI;HLIP;HLIEX;HLIE;HLIEP;HLAT;HLAX;HLA;HLAP;HLUOX;HLUO;HLUOP;HLOX;
    HLO;HLOP;HLEX;HLE;HLEP;HLUT;HLUX;HLU;HLUP;HLURX;HLUR;HLYT;HLYX;HLY;HLYP;HLYRX;HLYR;LIT;LIX;LI;
    LIP;LIET;LIEX;LIE;LIEP;LAT;LAX;LA;LAP;LUOT;LUOX;LUO;LUOP;LOT;LOX;LO;LOP;LEX;LE;LEP;LUT;LUX;LU;
    LUP;LURX;LUR;LYT;LYX;LY;LYP;LYRX;LYR;GIT;GIX;GI;GIP;GIET;GIEX;GIE;GIEP;GAT;GAX;GA;GAP;GUOT;
    GUOX;GUO;GUOP;GOT;GOX;GO;GOP;GET;GEX;GE;GEP;GUT;GUX;GU;GUP;GURX;GUR;KIT;KIX;KI;KIP;KIEX;KIE;
    KIEP;KAT;KAX;KA;KAP;KUOX;KUO;KUOP;KOT;KOX;KO;KOP;KET;KEX;KE;KEP;KUT;KUX;KU;KUP;KURX;KUR;GGIT;
    GGIX;GGI;GGIEX;GGIE;GGIEP;GGAT;GGAX;GGA;GGAP;GGUOT;GGUOX;GGUO;GGUOP;GGOT;GGOX;GGO;GGOP;GGET;
    GGEX;GGE;GGEP;GGUT;GGUX;GGU;GGUP;GGURX;GGUR;MGIEX;MGIE;MGAT;MGAX;MGA;MGAP;MGUOX;MGUO;MGUOP;
    MGOT;MGOX;MGO;MGOP;MGEX;MGE;MGEP;MGUT;MGUX;MGU;MGUP;MGURX;MGUR;HXIT;HXIX;HXI;HXIP;HXIET;HXIEX;
    HXIE;HXIEP;HXAT;HXAX;HXA;HXAP;HXUOT;HXUOX;HXUO;HXUOP;HXOT;HXOX;HXO;HXOP;HXEX;HXE;HXEP;NGIEX;
    NGIE;NGIEP;NGAT;NGAX;NGA;NGAP;NGUOT;NGUOX;NGUO;NGOT;NGOX;NGO;NGOP;NGEX;NGE;NGEP;HIT;HIEX;HIE;
    HAT;HAX;HA;HAP;HUOT;HUOX;HUO;HUOP;HOT;HOX;HO;HOP;HEX;HE;HEP;WAT;WAX;WA;WAP;WUOX;WUO;WUOP;WOX;
    WO;WOP;WEX;WE;WEP;ZIT;ZIX;ZI;ZIP;ZIEX;ZIE;ZIEP;ZAT;ZAX;ZA;ZAP;ZUOX;ZUO;ZUOP;ZOT;ZOX;ZO;ZOP;ZEX;
    ZE;ZEP;ZUT;ZUX;ZU;ZUP;ZURX;ZUR;ZYT;ZYX;ZY;ZYP;ZYRX;ZYR;CIT;CIX;CI;CIP;CIET;CIEX;CIE;CIEP;CAT;
    CAX;CA;CAP;CUOX;CUO;CUOP;COT;COX;CO;COP;CEX;CE;CEP;CUT;CUX;CU;CUP;CURX;CUR;CYT;CYX;CY;CYP;CYRX;
    CYR;ZZIT;ZZIX;ZZI;ZZIP;ZZIET;ZZIEX;ZZIE;ZZIEP;ZZAT;ZZAX;ZZA;ZZAP;ZZOX;ZZO;ZZOP;ZZEX;ZZE;ZZEP;
    ZZUX;ZZU;ZZUP;ZZURX;ZZUR;ZZYT;ZZYX;ZZY;ZZYP;ZZYRX;ZZYR;NZIT;NZIX;NZI;NZIP;NZIEX;NZIE;NZIEP;
    NZAT;NZAX;NZA;NZAP;NZUOX;NZUO;NZOX;NZOP;NZEX;NZE;NZUX;NZU;NZUP;NZURX;NZUR;NZYT;NZYX;NZY;NZYP;
    NZYRX;NZYR;SIT;SIX;SI;SIP;SIEX;SIE;SIEP;SAT;SAX;SA;SAP;SUOX;SUO;SUOP;SOT;SOX;SO;SOP;SEX;SE;SEP;
    SUT;SUX;SU;SUP;SURX;SUR;SYT;SYX;SY;SYP;SYRX;SYR;SSIT;SSIX;SSI;SSIP;SSIEX;SSIE;SSIEP;SSAT;SSAX;
    SSA;SSAP;SSOT;SSOX;SSO;SSOP;SSEX;SSE;SSEP;SSUT;SSUX;SSU;SSUP;SSYT;SSYX;SSY;SSYP;SSYRX;SSYR;
    ZHAT;ZHAX;ZHA;ZHAP;ZHUOX;ZHUO;ZHUOP;ZHOT;ZHOX;ZHO;ZHOP;ZHET;ZHEX;ZHE;ZHEP;ZHUT;ZHUX;ZHU;ZHUP;
    ZHURX;ZHUR;ZHYT;ZHYX;ZHY;ZHYP;ZHYRX;ZHYR;CHAT;CHAX;CHA;CHAP;CHUOT;CHUOX;CHUO;CHUOP;CHOT;CHOX;
    CHO;CHOP;CHET;CHEX;CHE;CHEP;CHUX;CHU;CHUP;CHURX;CHUR;CHYT;CHYX;CHY;CHYP;CHYRX;CHYR;RRAX;RRA;
    RRUOX;RRUO;RROT;RROX;RRO;RROP;RRET;RREX;RRE;RREP;RRUT;RRUX;RRU;RRUP;RRURX;RRUR;RRYT;RRYX;RRY;
    RRYP;RRYRX;RRYR;NRAT;NRAX;NRA;NRAP;NROX;NRO;NROP;NRET;NREX;NRE;NREP;NRUT;NRUX;NRU;NRUP;NRURX;
    NRUR;NRYT;NRYX;NRY;NRYP;NRYRX;NRYR;SHAT;SHAX;SHA;SHAP;SHUOX;SHUO;SHUOP;SHOT;SHOX;SHO;SHOP;SHET;
    SHEX;SHE;SHEP;SHUT;SHUX;SHU;SHUP;SHURX;SHUR;SHYT;SHYX;SHY;SHYP;SHYRX;SHYR;RAT;RAX;RA;RAP;RUOX;
    RUO;RUOP;ROT;ROX;RO;ROP;REX;RE;REP;RUT;RUX;RU;RUP;RURX;RUR;RYT;RYX;RY;RYP;RYRX;RYR;JIT;JIX;JI;
    JIP;JIET;JIEX;JIE;JIEP;JUOT;JUOX;JUO;JUOP;JOT;JOX;JO;JOP;JUT;JUX;JU;JUP;JURX;JUR;JYT;JYX;JY;
    JYP;JYRX;JYR;QIT;QIX;QI;QIP;QIET;QIEX;QIE;QIEP;QUOT;QUOX;QUO;QUOP;QOT;QOX;QO;QOP;QUT;QUX;QU;
    QUP;QURX;QUR;QYT;QYX;QY;QYP;QYRX;QYR;JJIT;JJIX;JJI;JJIP;JJIET;JJIEX;JJIE;JJIEP;JJUOX;JJUO;
    JJUOP;JJOT;JJOX;JJO;JJOP;JJUT;JJUX;JJU;JJUP;JJURX;JJUR;JJYT;JJYX;JJY;JJYP;NJIT;NJIX;NJI;NJIP;
    NJIET;NJIEX;NJIE;NJIEP;NJUOX;NJUO;NJOT;NJOX;NJO;NJOP;NJUX;NJU;NJUP;NJURX;NJUR;NJYT;NJYX;NJY;
    NJYP;NJYRX;NJYR;NYIT;NYIX;NYI;NYIP;NYIET;NYIEX;NYIE;NYIEP;NYUOX;NYUO;NYUOP;NYOT;NYOX;NYO;NYOP;
    NYUT;NYUX;NYU;NYUP;XIT;XIX;XI;XIP;XIET;XIEX;XIE;XIEP;XUOX;XUO;XOT;XOX;XO;XOP;XYT;XYX;XY;XYP;
    XYRX;XYR;YIT;YIX;YI;YIP;YIET;YIEX;YIE;YIEP;YUOT;YUOX;YUO;YUOP;YOT;YOX;YO;YOP;YUT;YUX;YU;YUP;
    YURX;YUR;YYT;YYX;YY;YYP;YYRX;YYR/A490 YI RADICAL *:QOT;LI;KIT;NYIP;CYP;SSI;GGOP;GEP;MI;HXIT;
    LYR;BBUT;MOP;YO;PUT;HXUO;TAT;GA;ZUP;CYT;DDUR;BUR;GGUO;NYOP;TU;OP;JJUT;ZOT;PYT;HMO;YIT;VUR;SHY;
    VEP;ZA;JO;NZUP;JJY;GOT;JJIE;WO;DU;SHUR;LIE;CY;CUOP;CIP;HXOP;SHAT;ZUR;SHOP;CHE;ZZIET;NBIE;KE/
    A4D0 LISU LETTER *:BA;PA;PHA;DA;TA;THA;GA;KA;KHA;JA;CA;CHA;DZA;TSA;TSHA;MA;NA;LA;SA;ZHA;ZA;NGA;
    HA;XA;HHA;FA;WA;SHA;YA;GHA;A;AE;E;EU;I;O;U;UE;UH;OE;TONE MYA TI;TONE NA PO/
    A4FA LISU LETTER TONE MYA *:CYA;BO;NA;JEU/A4FE LISU PUNCTUATION *:COMMA;FULL STOP/
    A500 VAI SYLLABLE *:EE;EEN;HEE;WEE;WEEN;PEE;BHEE;BEE;MBEE;KPEE;MGBEE;GBEE;FEE;VEE;TEE;THEE;
    DHEE;DHHEE;LEE;REE;DEE;NDEE;SEE;SHEE;ZEE;ZHEE;CEE;JEE;NJEE;YEE;KEE;NGGEE;GEE;MEE;NEE;NYEE;I;IN;
    HI;HIN;WI;WIN;PI;BHI;BI;MBI;KPI;MGBI;GBI;FI;VI;TI;THI;DHI;DHHI;LI;RI;DI;NDI;SI;SHI;ZI;ZHI;CI;
    JI;NJI;YI;KI;NGGI;GI;MI;NI;NYI;A;AN;NGAN;HA;HAN;WA;WAN;PA;BHA;BA;MBA;KPA;KPAN;MGBA;GBA;FA;VA;
    TA;THA;DHA;DHHA;LA;RA;DA;NDA;SA;SHA;ZA;ZHA;CA;JA;NJA;YA;KA;KAN;NGGA;GA;MA;NA;NYA;OO;OON;HOO;
    WOO;WOON;POO;BHOO;BOO;MBOO;KPOO;MGBOO;GBOO;FOO;VOO;TOO;THOO;DHOO;DHHOO;LOO;ROO;DOO;NDOO;SOO;
    SHOO;ZOO;ZHOO;COO;JOO;NJOO;YOO;KOO;NGGOO;GOO;MOO;NOO;NYOO;U;UN;HU;HUN;WU;WUN;PU;BHU;BU;MBU;KPU;
    MGBU;GBU;FU;VU;TU;THU;DHU;DHHU;LU;RU;DU;NDU;SU;SHU;ZU;ZHU;CU;JU;NJU;YU;KU;NGGU;GU;MU;NU;NYU;O;
    ON;NGON;HO;HON;WO;WON;PO;BHO;BO;MBO;KPO;MGBO;GBO;GBON;FO;VO;TO;THO;DHO;DHHO;LO;RO;DO;NDO;SO;
    SHO;ZO;ZHO;CO;JO;NJO;YO;KO;NGGO;GO;MO;NO;NYO;E;EN;NGEN;HE;HEN;WE;WEN;PE;BHE;BE;MBE;KPE;KPEN;
    MGBE;GBE;GBEN;FE;VE;TE;THE;DHE;DHHE;LE;RE;DE;NDE;SE;SHE;ZE;ZHE;CE;JE;NJE;YE;KE;NGGE;NGGEN;GE;
    GEN;ME;NE;NYE;NG;LENGTHENER/A60D VAI *:COMMA;FULL STOP;QUESTION MARK/A610 VAI SYLLABLE NDOLE *:
    FA;KA;SOO/A613 VAI SYMBOL *:FEENG;KEENG;TING;NII;BANG;FAA;TAA;DANG;DOONG;KUNG;TONG;DO-O;JONG/
    A620 VAI DIGIT *:ZERO;ONE;TWO;THREE;FOUR;FIVE;SIX;SEVEN;EIGHT;NINE/A62A VAI SYLLABLE NDOLE *:
    MA;DO/A640 CYRILLIC CAPITAL LETTER *|CYRILLIC SMALL LETTER *:ZEMLYA;DZELO;REVERSED DZE;IOTA;
    DJERV;MONOGRAPH UK;BROAD OMEGA;NEUTRAL YER;YERU WITH BACK YER;IOTIFIED YAT;REVERSED YU;
    IOTIFIED A;CLOSED LITTLE YUS;BLENDED YUS;IOTIFIED CLOSED LITTLE YUS;YN;REVERSED TSE;SOFT DE;
    SOFT EL;SOFT EM;MONOCULAR O;BINOCULAR O;DOUBLE MONOCULAR O/A66E:CYRILLIC LETTER MULTIOCULAR O;
    COMBINING CYRILLIC VZMET/A670 COMBINING CYRILLIC * MILLIONS SIGN:TEN;HUNDRED;THOUSAND/
    A673:SLAVONIC ASTERISK/A674 COMBINING CYRILLIC LETTER *:UKRAINIAN IE;I;YI;U;HARD SIGN;YERU;
    SOFT SIGN;OMEGA/A67C * KAVYKA|* PAYEROK:COMBINING CYRILLIC;CYRILLIC/
    A680 CYRILLIC CAPITAL LETTER *|CYRILLIC SMALL LETTER *:DWE;DZWE;ZHWE;CCHE;DZZE;
    TE WITH MIDDLE HOOK;TWE;TSWE;TSSE;TCHE;HWE;SHWE;DOUBLE O;CROSSED O/
    A69C MODIFIER LETTER CYRILLIC * SIGN:HARD;SOFT/A69E COMBINING CYRILLIC LETTER *:EF;IOTIFIED E/
    A6A0 BAMUM LETTER *:A;KA;U;KU;EE;REE;TAE;O;NYI;I;LA;PA;RII;RIEE;LEEEE;MEEEE;TAA;NDAA;NJAEM;M;
    SUU;MU;SHII;SI;SHEUX;SEUX;KYEE;KET;NUAE;NU;NJUAE;YOQ;SHU;YUQ;YA;NSHA;KEUX;PEUX;NJEE;NTEE;PUE;
    WUE;PEE;FEE;RU;LU;MI;NI;REUX;RAE;KEN;NGKWAEN;NGGA;NGA;SHO;PUAE;FU;FOM;WA;NA;LI;PI;LOQ;KO;MBEN;
    REN;MEN;MA;TI;KI;MO;MBAA;TET;KPA;TEN;NTUU;SAMBA;FAAMAE;KOVUU;KOGHOM/A6F0 BAMUM *:
    COMBINING MARK KOQNDON;COMBINING MARK TUKWENTIS;NJAEMLI;FULL STOP;COLON;COMMA;SEMICOLON;
    QUESTION MARK/A700 MODIFIER LETTER CHINESE TONE YIN *|MODIFIER LETTER CHINESE TONE YANG *:PING;
    SHANG;QU;RU/A708 MODIFIER LETTER * DOTTED TONE BAR:EXTRA-HIGH;HIGH;MID;LOW;EXTRA-LOW/
    A70D MODIFIER LETTER * LEFT-STEM TONE BAR:EXTRA-HIGH DOTTED;HIGH DOTTED;MID DOTTED;LOW DOTTED;
    EXTRA-LOW DOTTED;EXTRA-HIGH;HIGH;MID;LOW;EXTRA-LOW/A717 MODIFIER LETTER *:DOT VERTICAL BAR;
    DOT SLASH;DOT HORIZONTAL BAR;LOWER RIGHT CORNER ANGLE;RAISED UP ARROW;RAISED DOWN ARROW;
    RAISED EXCLAMATION MARK;RAISED INVERTED EXCLAMATION MARK;LOW INVERTED EXCLAMATION MARK;
    STRESS AND HIGH TONE;STRESS AND LOW TONE/A722 LATIN CAPITAL LETTER *|LATIN SMALL LETTER *:
    EGYPTOLOGICAL ALEF;EGYPTOLOGICAL AIN;HENG;TZ;TRESILLO;CUATRILLO;CUATRILLO WITH COMMA/
    A730 LATIN LETTER SMALL CAPITAL *:F;S/A732 LATIN CAPITAL LETTER *|LATIN SMALL LETTER *:AA;AO;
    AU;AV;AV WITH HORIZONTAL BAR;AY;REVERSED C WITH DOT;K WITH STROKE;K WITH DIAGONAL STROKE;
    K WITH STROKE AND DIAGONAL STROKE;BROKEN L;L WITH HIGH STROKE;O WITH LONG STROKE OVERLAY;
    O WITH LOOP;OO;P WITH STROKE THROUGH DESCENDER;P WITH FLOURISH;P WITH SQUIRREL TAIL;
    Q WITH STROKE THROUGH DESCENDER;Q WITH DIAGONAL STROKE;R ROTUNDA;RUM ROTUNDA;
    V WITH DIAGONAL STROKE;VY;VISIGOTHIC Z;THORN WITH STROKE;THORN WITH STROKE THROUGH DESCENDER;
    VEND;ET;IS;CON/A770:MODIFIER LETTER US/A771 LATIN SMALL LETTER *:DUM;LUM;MUM;NUM;RUM/
    A776 LATIN *:LETTER SMALL CAPITAL RUM;SMALL LETTER TUM;SMALL LETTER UM/
    A779 LATIN CAPITAL LETTER INSULAR *|LATIN SMALL LETTER INSULAR *:D;F/
    A77D:LATIN CAPITAL LETTER INSULAR G/A77E LATIN CAPITAL LETTER *|LATIN SMALL LETTER *:
    TURNED INSULAR G;TURNED L;INSULAR R;INSULAR S;INSULAR T/A788 MODIFIER LETTER *:
    LOW CIRCUMFLEX ACCENT;COLON;SHORT EQUALS SIGN/A78B LATIN *:CAPITAL LETTER SALTILLO;
    SMALL LETTER SALTILLO;CAPITAL LETTER TURNED H;SMALL LETTER L WITH RETROFLEX HOOK AND BELT;
    LETTER SINOLOGICAL DOT/A790 LATIN CAPITAL LETTER *|LATIN SMALL LETTER *:N WITH DESCENDER;
    C WITH BAR/A794 LATIN SMALL LETTER * WITH PALATAL HOOK:C;H/A796 LATIN CAPITAL LETTER *|
    LATIN SMALL LETTER *:B WITH FLOURISH;F WITH STROKE;VOLAPUK AE;VOLAPUK OE;VOLAPUK UE/
    A7A0 LATIN CAPITAL LETTER * WITH OBLIQUE STROKE|LATIN SMALL LETTER * WITH OBLIQUE STROKE:G;K;N;
    R;S/A7AA LATIN CAPITAL LETTER *:H WITH HOOK;REVERSED OPEN E;SCRIPT G;L WITH BELT;
    SMALL CAPITAL I/A7AF:LATIN LETTER SMALL CAPITAL Q/A7B0 LATIN CAPITAL LETTER *:TURNED K;
    TURNED T;J WITH CROSSED-TAIL;CHI/A7B4 LATIN CAPITAL LETTER *|LATIN SMALL LETTER *:BETA;OMEGA;
    U WITH STROKE;GLOTTAL A;GLOTTAL I;GLOTTAL U;OLD POLISH O;ANGLICANA W/
    A7C4 LATIN CAPITAL LETTER * HOOK:C WITH PALATAL;S WITH;Z WITH PALATAL/
    A7C7 LATIN CAPITAL LETTER * WITH SHORT STROKE OVERLAY|
    LATIN SMALL LETTER * WITH SHORT STROKE OVERLAY:D;S/A7D0 LATIN * LETTER CLOSED INSULAR G:
    CAPITAL;SMALL/A7D3:LATIN SMALL LETTER DOUBLE THORN/A7D5:LATIN SMALL LETTER DOUBLE WYNN/
    A7D6 LATIN CAPITAL LETTER * S|LATIN SMALL LETTER * S:MIDDLE SCOTS;SIGMOID/
    A7F2 MODIFIER LETTER CAPITAL *:C;F;Q/A7F5 LATIN * LETTER REVERSED HALF H:CAPITAL;SMALL/
    A7F7:LATIN EPIGRAPHIC LETTER SIDEWAYS I;MODIFIER LETTER CAPITAL H WITH STROKE;
    MODIFIER LETTER SMALL LIGATURE OE;LATIN LETTER SMALL CAPITAL TURNED M/
    A7FB LATIN EPIGRAPHIC LETTER *:REVERSED F;REVERSED P;INVERTED M;I LONGA;ARCHAIC M/
    A800 SYLOTI NAGRI *:LETTER A;LETTER I;SIGN DVISVARA;LETTER U;LETTER E;LETTER O;SIGN HASANTA;
    LETTER KO;LETTER KHO;LETTER GO;LETTER GHO;SIGN ANUSVARA/A80C SYLOTI NAGRI LETTER *:CO;CHO;JO;
    JHO;TTO;TTHO;DDO;DDHO;TO;THO;DO;DHO;NO;PO;PHO;BO;BHO;MO;RO;LO;RRO;SO;HO/
    A823 SYLOTI NAGRI VOWEL SIGN *:A;I;U;E;OO/A828 SYLOTI NAGRI POETRY MARK-*:1;2;3;4/
    A82C:SYLOTI NAGRI SIGN ALTERNATE HASANTA/A830 NORTH INDIC FRACTION *:ONE QUARTER;ONE HALF;
    THREE QUARTERS;ONE SIXTEENTH;ONE EIGHTH;THREE SIXTEENTHS/A836 NORTH INDIC * MARK:QUARTER;
    PLACEHOLDER;RUPEE;QUANTITY/A840 PHAGS-PA LETTER *:KA;KHA;GA;NGA;CA;CHA;JA;NYA;TA;THA;DA;NA;PA;
    PHA;BA;MA;TSA;TSHA;DZA;WA;ZHA;ZA;SMALL A;YA;RA;LA;SHA;SA;HA;A;I;U;E;O;QA;XA;FA;GGA;EE/
    A867 PHAGS-PA SUBJOINED LETTER *:WA;YA/A869 PHAGS-PA LETTER *:TTA;TTHA;DDA;NNA;ALTERNATE YA;
    VOICELESS SHA;VOICED HA;ASPIRATED FA/A871 PHAGS-PA *:SUBJOINED LETTER RA;SUPERFIXED LETTER RA;
    LETTER CANDRABINDU;SINGLE HEAD MARK;DOUBLE HEAD MARK;MARK SHAD;MARK DOUBLE SHAD/
    A880 SAURASHTRA SIGN *:ANUSVARA;VISARGA/A882 SAURASHTRA LETTER *:A;AA;I;II;U;UU;VOCALIC R;
    VOCALIC RR;VOCALIC L;VOCALIC LL;E;EE;AI;O;OO;AU;KA;KHA;GA;GHA;NGA;CA;CHA;JA;JHA;NYA;TTA;TTHA;
    DDA;DDHA;NNA;TA;THA;DA;DHA;NA;PA;PHA;BA;BHA;MA;YA;RA;LA;VA;SHA;SSA;SA;HA;LLA/
    A8B4:SAURASHTRA CONSONANT SIGN HAARU/A8B5 SAURASHTRA VOWEL SIGN *:AA;I;II;U;UU;VOCALIC R;
    VOCALIC RR;VOCALIC L;VOCALIC LL;E;EE;AI;O;OO;AU/A8C4 SAURASHTRA SIGN *:VIRAMA;CANDRABINDU/
    A8CE SAURASHTRA *:DANDA;DOUBLE DANDA/A8D0 SAURASHTRA DIGIT *:ZERO;ONE;TWO;THREE;FOUR;FIVE;SIX;
    SEVEN;EIGHT;NINE/A8E0 COMBINING DEVANAGARI DIGIT *:ZERO;ONE;TWO;THREE;FOUR;FIVE;SIX;SEVEN;
    EIGHT;NINE/A8EA COMBINING DEVANAGARI LETTER *:A;U;KA;NA;PA;RA;VI/
    A8F1:COMBINING DEVANAGARI SIGN AVAGRAHA/A8F2 DEVANAGARI SIGN *:SPACING CANDRABINDU;
    CANDRABINDU VIRAMA;DOUBLE CANDRABINDU VIRAMA;CANDRABINDU TWO;CANDRABINDU THREE;
    CANDRABINDU AVAGRAHA;PUSHPIKA/A8F9 DEVANAGARI *:GAP FILLER;CARET;HEADSTROKE;SIGN SIDDHAM;
    JAIN OM;LETTER AY;VOWEL SIGN AY/A900 KAYAH LI DIGIT *:ZERO;ONE;TWO;THREE;FOUR;FIVE;SIX;SEVEN;
    EIGHT;NINE/A90A KAYAH LI LETTER *:KA;KHA;GA;NGA;SA;SHA;ZA;NYA;TA;HTA;NA;PA;PHA;MA;DA;BA;RA;YA;
    LA;WA;THA;HA;VA;CA;A;OE;I;OO/A926 KAYAH LI VOWEL *:UE;E;U;EE;O/A92B KAYAH LI *:TONE PLOPHU;
    TONE CALYA;TONE CALYA PLOPHU;SIGN CWI;SIGN SHYA/A930 REJANG LETTER *:KA;GA;NGA;TA;DA;NA;PA;BA;
    MA;CA;JA;NYA;SA;RA;LA;YA;WA;HA;MBA;NGGA;NDA;NYJA;A/A947 REJANG VOWEL SIGN *:I;U;E;AI;O;AU;EU;
    EA/A94F REJANG CONSONANT SIGN *:NG;N;R;H/A953:REJANG VIRAMA/A95F:REJANG SECTION MARK/
    A960 HANGUL CHOSEONG TIKEUT-*:MIEUM;PIEUP;SIOS;CIEUC/A964 HANGUL CHOSEONG RIEUL-*:KIYEOK;
    SSANGKIYEOK;TIKEUT;SSANGTIKEUT;MIEUM;PIEUP;SSANGPIEUP;KAPYEOUNPIEUP;SIOS;CIEUC;KHIEUKH/
    A96F HANGUL CHOSEONG *:MIEUM-KIYEOK;MIEUM-TIKEUT;MIEUM-SIOS;PIEUP-SIOS-THIEUTH;PIEUP-KHIEUKH;
    PIEUP-HIEUH;SSANGSIOS-PIEUP;IEUNG-RIEUL;IEUNG-HIEUH;SSANGCIEUC-HIEUH;SSANGTHIEUTH;
    PHIEUPH-HIEUH;HIEUH-SIOS;SSANGYEORINHIEUH/A980 JAVANESE SIGN *:PANYANGGA;CECAK;LAYAR;WIGNYAN/
    A984 JAVANESE LETTER *:A;I KAWI;I;II;U;PA CEREK;NGA LELET;NGA LELET RASWADI;E;AI;O;KA;KA SASAK;
    KA MURDA;GA;GA MURDA;NGA;CA;CA MURDA;JA;NYA MURDA;JA MAHAPRANA;NYA;TTA;TTA MAHAPRANA;DDA;
    DDA MAHAPRANA;NA MURDA;TA;TA MURDA;DA;DA MAHAPRANA;NA;PA;PA MURDA;BA;BA MURDA;MA;YA;RA;
    RA AGUNG;LA;WA;SA MURDA;SA MAHAPRANA;SA;HA/A9B3:JAVANESE SIGN CECAK TELU/
    A9B4 JAVANESE VOWEL SIGN *:TARUNG;TOLONG;WULU;WULU MELIK;SUKU;SUKU MENDUT;TALING;DIRGA MURE;
    PEPET/A9BD JAVANESE CONSONANT SIGN *:KERET;PENGKAL;CAKRA/A9C0 JAVANESE *:PANGKON;
    LEFT RERENGGAN;RIGHT RERENGGAN/A9C3 JAVANESE PADA *:ANDAP;MADYA;LUHUR;WINDU;PANGKAT;LINGSA;
    LUNGSI;ADEG;ADEG ADEG/A9CC JAVANESE * PISELEH:PADA;TURNED PADA/A9CF:JAVANESE PANGRANGKEP/
    A9D0 JAVANESE DIGIT *:ZERO;ONE;TWO;THREE;FOUR;FIVE;SIX;SEVEN;EIGHT;NINE/A9DE JAVANESE PADA *:
    TIRTA TUMETES;ISEN-ISEN/A9E0 MYANMAR LETTER SHAN *:GHA;CHA;JHA;NNA;BHA/A9E5 MYANMAR *:
    SIGN SHAN SAW;MODIFIER LETTER SHAN REDUPLICATION/A9E7 MYANMAR LETTER TAI LAING *:NYA;FA;GA;GHA;
    JA;JHA;DDA;DDHA;NNA/A9F0 MYANMAR TAI LAING DIGIT *:ZERO;ONE;TWO;THREE;FOUR;FIVE;SIX;SEVEN;
    EIGHT;NINE/A9FA MYANMAR LETTER TAI LAING *:LLA;DA;DHA;BA;BHA/AA00 CHAM LETTER *:A;I;U;E;AI;O;
    KA;KHA;GA;GHA;NGUE;NGA;CHA;CHHA;JA;JHA;NHUE;NHA;NHJA;TA;THA;DA;DHA;NUE;NA;DDA;PA;PPA;PHA;BA;
    BHA;MUE;MA;BBA;YA;RA;LA;VA;SSA;SA;HA/AA29 CHAM VOWEL SIGN *:AA;I;II;EI;U;OE;O;AI;AU;UE/
    AA33 CHAM CONSONANT SIGN *:YA;RA;LA;WA/AA40 CHAM LETTER FINAL *:K;G;NG/
    AA43:CHAM CONSONANT SIGN FINAL NG/AA44 CHAM LETTER FINAL *:CH;T;N;P;Y;R;L;SS/
    AA4C CHAM CONSONANT SIGN FINAL *:M;H/AA50 CHAM DIGIT *:ZERO;ONE;TWO;THREE;FOUR;FIVE;SIX;SEVEN;
    EIGHT;NINE/AA5C CHAM PUNCTUATION *:SPIRAL;DANDA;DOUBLE DANDA;TRIPLE DANDA/
    AA60 MYANMAR LETTER KHAMTI *:GA;CA;CHA;JA;JHA;NYA;TTA;TTHA;DDA;DDHA;DHA;NA;SA;HA;HHA;FA/
    AA70:MYANMAR MODIFIER LETTER KHAMTI REDUPLICATION/AA71 MYANMAR LETTER KHAMTI *:XA;ZA;RA/
    AA74 MYANMAR LOGOGRAM KHAMTI *:OAY;QN;HM/AA77 MYANMAR SYMBOL AITON *:EXCLAMATION;ONE;TWO/
    AA7A MYANMAR *:LETTER AITON RA;SIGN PAO KAREN TONE/AA7C MYANMAR SIGN TAI LAING TONE-*:2;5/
    AA7E MYANMAR LETTER SHWE PALAUNG *:CHA;SHA/AA80 TAI VIET LETTER LOW *|TAI VIET LETTER HIGH *:
    KO;KHO;KHHO;GO;NGO;CO;CHO;SO;NYO;DO;TO;THO;NO;BO;PO;PHO;FO;MO;YO;RO;LO;VO;HO;O/AAB0 TAI VIET *:
    MAI KANG;VOWEL AA;VOWEL I;VOWEL UE;VOWEL U;VOWEL E;VOWEL O;MAI KHIT/AAB8 TAI VIET VOWEL *:IA;
    UEA;UA;AUE;AY;AN;AM/AABF TAI VIET TONE MAI *:EK;NUENG;THO;SONG/AADB TAI VIET SYMBOL *:KON;
    NUENG;SAM;HO HOI;KOI KOI/AAE0 MEETEI MAYEK LETTER *:E;O;CHA;NYA;TTA;TTHA;DDA;DDHA;NNA;SHA;SSA/
    AAEB MEETEI MAYEK VOWEL SIGN *:II;UU;AAI;AU;AAU/AAF0 MEETEI MAYEK *:CHEIKHAN;AHANG KHUDAM;ANJI;
    SYLLABLE REPETITION MARK;WORD REPETITION MARK;VOWEL SIGN VISARGA;VIRAMA/
    AB01 ETHIOPIC SYLLABLE *:TTHU;TTHI;TTHAA;TTHEE;TTHE;TTHO/AB09 ETHIOPIC SYLLABLE *:DDHU;DDHI;
    DDHAA;DDHEE;DDHE;DDHO/AB11 ETHIOPIC SYLLABLE *:DZU;DZI;DZAA;DZEE;DZE;DZO/
    AB20 ETHIOPIC SYLLABLE *:CCHHA;CCHHU;CCHHI;CCHHAA;CCHHEE;CCHHE;CCHHO/AB28 ETHIOPIC SYLLABLE *:
    BBA;BBU;BBI;BBAA;BBEE;BBE;BBO/AB30 LATIN SMALL LETTER *:BARRED ALPHA;A REVERSED-SCHWA;
    BLACKLETTER E;BARRED E;E WITH FLOURISH;LENIS F;SCRIPT G WITH CROSSED-TAIL;
    L WITH INVERTED LAZY S;L WITH DOUBLE MIDDLE TILDE;L WITH MIDDLE RING;M WITH CROSSED-TAIL;
    N WITH CROSSED-TAIL;ENG WITH CROSSED-TAIL;BLACKLETTER O;BLACKLETTER O WITH STROKE;
    OPEN O WITH STROKE;INVERTED OE;TURNED OE WITH STROKE;TURNED OE WITH HORIZONTAL STROKE;
    TURNED O OPEN-O;TURNED O OPEN-O WITH STROKE;STIRRUP R/
    AB46:LATIN LETTER SMALL CAPITAL R WITH RIGHT LEG/AB47 LATIN SMALL LETTER *:R WITHOUT HANDLE;
    DOUBLE R;R WITH CROSSED-TAIL;DOUBLE R WITH CROSSED-TAIL;SCRIPT R;SCRIPT R WITH RING;
    BASELINE ESH;U WITH SHORT RIGHT LEG;U BAR WITH SHORT RIGHT LEG;UI;TURNED UI;U WITH LEFT HOOK;
    CHI;CHI WITH LOW RIGHT RING;CHI WITH LOW LEFT SERIF;X WITH LOW RIGHT RING;X WITH LONG LEFT LEG;
    X WITH LONG LEFT LEG AND LOW RIGHT RING;X WITH LONG LEFT LEG WITH SERIF;Y WITH SHORT RIGHT LEG/
    AB5B:MODIFIER BREVE WITH INVERTED BREVE/AB5C MODIFIER LETTER SMALL *:HENG;
    L WITH INVERTED LAZY S;L WITH MIDDLE TILDE;U WITH LEFT HOOK/AB60 LATIN SMALL LETTER *:
    SAKHA YAT;IOTIFIED E;OPEN OE;UO;INVERTED ALPHA/AB65:GREEK LETTER SMALL CAPITAL OMEGA/
    AB66 LATIN SMALL LETTER *:DZ DIGRAPH WITH RETROFLEX HOOK;TS DIGRAPH WITH RETROFLEX HOOK;
    TURNED R WITH MIDDLE TILDE/AB69 MODIFIER LETTER *:SMALL TURNED W;LEFT TACK;RIGHT TACK/
    AB70 CHEROKEE SMALL LETTER *:A;E;I;O;U;V;GA;KA;GE;GI;GO;GU;GV;HA;HE;HI;HO;HU;HV;LA;LE;LI;LO;LU;
    LV;MA;ME;MI;MO;MU;NA;HNA;NAH;NE;NI;NO;NU;NV;QUA;QUE;QUI;QUO;QUU;QUV;SA;S;SE;SI;SO;SU;SV;DA;TA;
    DE;TE;DI;TI;DO;DU;DV;DLA;TLA;TLE;TLI;TLO;TLU;TLV;TSA;TSE;TSI;TSO;TSU;TSV;WA;WE;WI;WO;WU;WV;YA/
    ABC0 MEETEI MAYEK LETTER *:KOK;SAM;LAI;MIT;PA;NA;CHIL;TIL;KHOU;NGOU;THOU;WAI;YANG;HUK;UN;I;
    PHAM;ATIYA;GOK;JHAM;RAI;BA;JIL;DIL;GHOU;DHOU;BHAM/ABDB MEETEI MAYEK LETTER * LONSUM:KOK;LAI;
    MIT;PA;NA;TIL;NGOU;I/ABE3 MEETEI MAYEK VOWEL SIGN *:ONAP;INAP;ANAP;YENAP;SOUNAP;UNAP;CHEINAP;
    NUNG/ABEB MEETEI MAYEK *:CHEIKHEI;LUM IYEK;APUN IYEK/ABF0 MEETEI MAYEK DIGIT *:ZERO;ONE;TWO;
    THREE;FOUR;FIVE;SIX;SEVEN;EIGHT;NINE/D7B0 HANGUL JUNGSEONG *:O-YEO;O-O-I;YO-A;YO-AE;YO-EO;
    U-YEO;U-I-I;YU-AE;YU-O;EU-A;EU-EO;EU-E;EU-O;I-YA-O;I-YAE;I-YEO;I-YE;I-O-I;I-YO;I-YU;I-I;
    ARAEA-A;ARAEA-E/D7CB HANGUL JONGSEONG *:NIEUN-RIEUL;NIEUN-CHIEUCH;SSANGTIKEUT;
    SSANGTIKEUT-PIEUP;TIKEUT-PIEUP;TIKEUT-SIOS;TIKEUT-SIOS-KIYEOK;TIKEUT-CIEUC;TIKEUT-CHIEUCH;
    TIKEUT-THIEUTH;RIEUL-SSANGKIYEOK;RIEUL-KIYEOK-HIEUH;SSANGRIEUL-KHIEUKH;RIEUL-MIEUM-HIEUH;
    RIEUL-PIEUP-TIKEUT;RIEUL-PIEUP-PHIEUPH;RIEUL-YESIEUNG;RIEUL-YEORINHIEUH-HIEUH;KAPYEOUNRIEUL;
    MIEUM-NIEUN;MIEUM-SSANGNIEUN;SSANGMIEUM;MIEUM-PIEUP-SIOS;MIEUM-CIEUC;PIEUP-TIKEUT;
    PIEUP-RIEUL-PHIEUPH;PIEUP-MIEUM;SSANGPIEUP;PIEUP-SIOS-TIKEUT;PIEUP-CIEUC;PIEUP-CHIEUCH;
    SIOS-MIEUM;SIOS-KAPYEOUNPIEUP;SSANGSIOS-KIYEOK;SSANGSIOS-TIKEUT;SIOS-PANSIOS;SIOS-CIEUC;
    SIOS-CHIEUCH;SIOS-THIEUTH;SIOS-HIEUH;PANSIOS-PIEUP;PANSIOS-KAPYEOUNPIEUP;YESIEUNG-MIEUM;
    YESIEUNG-HIEUH;CIEUC-PIEUP;CIEUC-SSANGPIEUP;SSANGCIEUC;PHIEUPH-SIOS;PHIEUPH-THIEUTH/
    FB00 LATIN SMALL LIGATURE *:FF;FI;FL;FFI;FFL;LONG S T;ST/FB13 ARMENIAN SMALL LIGATURE *:
    MEN NOW;MEN ECH;MEN INI;VEW NOW;MEN XEH/FB1D HEBREW *:LETTER YOD WITH HIRIQ;
    POINT JUDEO-SPANISH VARIKA;LIGATURE YIDDISH YOD YOD PATAH;LETTER ALTERNATIVE AYIN/
    FB21 HEBREW LETTER WIDE *:ALEF;DALET;HE;KAF;LAMED;FINAL MEM;RESH;TAV/FB29 HEBREW LETTER *:
    ALTERNATIVE PLUS SIGN;SHIN WITH SHIN DOT;SHIN WITH SIN DOT;SHIN WITH DAGESH AND SHIN DOT;
    SHIN WITH DAGESH AND SIN DOT;ALEF WITH PATAH;ALEF WITH QAMATS;ALEF WITH MAPIQ;BET WITH DAGESH;
    GIMEL WITH DAGESH;DALET WITH DAGESH;HE WITH MAPIQ;VAV WITH DAGESH;ZAYIN WITH DAGESH/
    FB38 HEBREW LETTER * WITH DAGESH:TET;YOD;FINAL KAF;KAF;LAMED/
    FB3E:HEBREW LETTER MEM WITH DAGESH/FB40 HEBREW LETTER * WITH DAGESH:NUN;SAMEKH/
    FB43 HEBREW LETTER * WITH DAGESH:FINAL PE;PE/FB46 HEBREW LETTER * WITH DAGESH:TSADI;QOF;RESH;
    SHIN;TAV/FB4B HEBREW LETTER *:VAV WITH HOLAM;BET WITH RAFE;KAF WITH RAFE;PE WITH RAFE/
    FB4F:HEBREW LIGATURE ALEF LAMED/FB50 ARABIC LETTER ALEF WASLA * FORM:ISOLATED;FINAL/
    FB52 ARABIC LETTER * ISOLATED FORM|ARABIC LETTER * FINAL FORM|ARABIC LETTER * INITIAL FORM|
    ARABIC LETTER * MEDIAL FORM:BEEH;PEH;BEHEH;TTEHEH;TEHEH;TTEH;VEH;PEHEH;DYEH;NYEH;TCHEH;TCHEHEH/
    FB82 ARABIC LETTER * ISOLATED FORM|ARABIC LETTER * FINAL FORM:DDAHAL;DAHAL;DUL;DDAL;JEH;RREH/
    FB8E ARABIC LETTER * ISOLATED FORM|ARABIC LETTER * FINAL FORM|ARABIC LETTER * INITIAL FORM|
    ARABIC LETTER * MEDIAL FORM:KEHEH;GAF;GUEH;NGOEH/FB9E ARABIC LETTER * FORM:
    NOON GHUNNA ISOLATED;NOON GHUNNA FINAL;RNOON ISOLATED;RNOON FINAL;RNOON INITIAL;RNOON MEDIAL;
    HEH WITH YEH ABOVE ISOLATED;HEH WITH YEH ABOVE FINAL;HEH GOAL ISOLATED;HEH GOAL FINAL;
    HEH GOAL INITIAL;HEH GOAL MEDIAL/FBAA ARABIC LETTER HEH DOACHASHMEE * FORM:ISOLATED;FINAL;
    INITIAL;MEDIAL/FBAE ARABIC LETTER YEH BARREE * FORM:ISOLATED;FINAL;WITH HAMZA ABOVE ISOLATED;
    WITH HAMZA ABOVE FINAL/FBB2 ARABIC SYMBOL * ABOVE|ARABIC SYMBOL * BELOW:DOT;TWO DOTS;
    THREE DOTS;THREE DOTS POINTING DOWNWARDS;FOUR DOTS/FBBC ARABIC SYMBOL *:
    DOUBLE VERTICAL BAR BELOW;TWO DOTS VERTICALLY ABOVE;TWO DOTS VERTICALLY BELOW;RING;
    SMALL TAH ABOVE;SMALL TAH BELOW;WASLA ABOVE/FBD3 ARABIC LETTER * FORM:NG ISOLATED;NG FINAL;
    NG INITIAL;NG MEDIAL;U ISOLATED;U FINAL;OE ISOLATED;OE FINAL;YU ISOLATED;YU FINAL;
    U WITH HAMZA ABOVE ISOLATED/FBDE ARABIC LETTER * ISOLATED FORM|ARABIC LETTER * FINAL FORM:VE;
    KIRGHIZ OE;KIRGHIZ YU;E/FBE6 ARABIC LETTER * INITIAL FORM|ARABIC LETTER * MEDIAL FORM:E;
    UIGHUR KAZAKH KIRGHIZ ALEF MAKSURA/
    FBEA ARABIC LIGATURE YEH WITH HAMZA ABOVE WITH * ISOLATED FORM|
    ARABIC LIGATURE YEH WITH HAMZA ABOVE WITH * FINAL FORM:ALEF;AE;WAW;U;OE;YU/
    FBF6 ARABIC * ISOLATED FORM|ARABIC * FINAL FORM|ARABIC * INITIAL FORM:
    LIGATURE YEH WITH HAMZA ABOVE WITH E;
    LIGATURE UIGHUR KIRGHIZ YEH WITH HAMZA ABOVE WITH ALEF MAKSURA;LETTER FARSI YEH/
    FBFF:ARABIC LETTER FARSI YEH MEDIAL FORM/
    FC00 ARABIC LIGATURE YEH WITH HAMZA ABOVE WITH * ISOLATED FORM:JEEM;HAH;MEEM;ALEF MAKSURA;YEH/
    FC05 ARABIC LIGATURE BEH WITH * ISOLATED FORM:JEEM;HAH;KHAH;MEEM;ALEF MAKSURA;YEH/
    FC0B ARABIC LIGATURE TEH WITH * ISOLATED FORM:JEEM;HAH;KHAH;MEEM;ALEF MAKSURA;YEH/
    FC11 ARABIC LIGATURE * ISOLATED FORM:THEH WITH JEEM;THEH WITH MEEM;THEH WITH ALEF MAKSURA;
    THEH WITH YEH;JEEM WITH HAH;JEEM WITH MEEM;HAH WITH JEEM;HAH WITH MEEM;KHAH WITH JEEM;
    KHAH WITH HAH;KHAH WITH MEEM;SEEN WITH JEEM;SEEN WITH HAH;SEEN WITH KHAH;SEEN WITH MEEM;
    SAD WITH HAH;SAD WITH MEEM;DAD WITH JEEM;DAD WITH HAH;DAD WITH KHAH;DAD WITH MEEM;TAH WITH HAH;
    TAH WITH MEEM;ZAH WITH MEEM;AIN WITH JEEM;AIN WITH MEEM;GHAIN WITH JEEM;GHAIN WITH MEEM;
    FEH WITH JEEM;FEH WITH HAH;FEH WITH KHAH;FEH WITH MEEM;FEH WITH ALEF MAKSURA;FEH WITH YEH;
    QAF WITH HAH;QAF WITH MEEM;QAF WITH ALEF MAKSURA;QAF WITH YEH/
    FC37 ARABIC LIGATURE KAF WITH * ISOLATED FORM:ALEF;JEEM;HAH;KHAH;LAM;MEEM;ALEF MAKSURA;YEH/
    FC3F ARABIC LIGATURE LAM WITH * ISOLATED FORM:JEEM;HAH;KHAH;MEEM;ALEF MAKSURA;YEH/
    FC45 ARABIC LIGATURE MEEM WITH * ISOLATED FORM:JEEM;HAH;KHAH;MEEM;ALEF MAKSURA;YEH/
    FC4B ARABIC LIGATURE NOON WITH * ISOLATED FORM:JEEM;HAH;KHAH;MEEM;ALEF MAKSURA;YEH/
    FC51 ARABIC LIGATURE HEH WITH * ISOLATED FORM:JEEM;MEEM;ALEF MAKSURA;YEH/
    FC55 ARABIC LIGATURE YEH WITH * ISOLATED FORM:JEEM;HAH;KHAH;MEEM;ALEF MAKSURA;YEH/
    FC5B ARABIC LIGATURE * WITH SUPERSCRIPT ALEF ISOLATED FORM:THAL;REH;ALEF MAKSURA/
    FC5E ARABIC LIGATURE SHADDA WITH * ISOLATED FORM:DAMMATAN;KASRATAN;FATHA;DAMMA;KASRA;
    SUPERSCRIPT ALEF/FC64 ARABIC LIGATURE YEH WITH HAMZA ABOVE WITH * FINAL FORM:REH;ZAIN;MEEM;
    NOON;ALEF MAKSURA;YEH/FC6A ARABIC LIGATURE BEH WITH * FINAL FORM:REH;ZAIN;MEEM;NOON;
    ALEF MAKSURA;YEH/FC70 ARABIC LIGATURE TEH WITH * FINAL FORM:REH;ZAIN;MEEM;NOON;ALEF MAKSURA;
    YEH/FC76 ARABIC LIGATURE THEH WITH * FINAL FORM:REH;ZAIN;MEEM;NOON;ALEF MAKSURA;YEH/
    FC7C ARABIC LIGATURE * FINAL FORM:FEH WITH ALEF MAKSURA;FEH WITH YEH;QAF WITH ALEF MAKSURA;
    QAF WITH YEH;KAF WITH ALEF;KAF WITH LAM;KAF WITH MEEM;KAF WITH ALEF MAKSURA;KAF WITH YEH;
    LAM WITH MEEM;LAM WITH ALEF MAKSURA;LAM WITH YEH;MEEM WITH ALEF;MEEM WITH MEEM;NOON WITH REH;
    NOON WITH ZAIN;NOON WITH MEEM;NOON WITH NOON;NOON WITH ALEF MAKSURA;NOON WITH YEH;
    ALEF MAKSURA WITH SUPERSCRIPT ALEF/FC91 ARABIC LIGATURE YEH WITH * FINAL FORM:REH;ZAIN;MEEM;
    NOON;ALEF MAKSURA;YEH/FC97 ARABIC LIGATURE YEH WITH HAMZA ABOVE WITH * INITIAL FORM:JEEM;HAH;
    KHAH;MEEM;HEH/FC9C ARABIC LIGATURE * INITIAL FORM:BEH WITH JEEM;BEH WITH HAH;BEH WITH KHAH;
    BEH WITH MEEM;BEH WITH HEH;TEH WITH JEEM;TEH WITH HAH;TEH WITH KHAH;TEH WITH MEEM;TEH WITH HEH;
    THEH WITH MEEM;JEEM WITH HAH;JEEM WITH MEEM;HAH WITH JEEM;HAH WITH MEEM;KHAH WITH JEEM;
    KHAH WITH MEEM;SEEN WITH JEEM;SEEN WITH HAH;SEEN WITH KHAH;SEEN WITH MEEM;SAD WITH HAH;
    SAD WITH KHAH;SAD WITH MEEM;DAD WITH JEEM;DAD WITH HAH;DAD WITH KHAH;DAD WITH MEEM;
    TAH WITH HAH;ZAH WITH MEEM;AIN WITH JEEM;AIN WITH MEEM;GHAIN WITH JEEM;GHAIN WITH MEEM;
    FEH WITH JEEM;FEH WITH HAH;FEH WITH KHAH;FEH WITH MEEM;QAF WITH HAH;QAF WITH MEEM;
    KAF WITH JEEM;KAF WITH HAH;KAF WITH KHAH;KAF WITH LAM;KAF WITH MEEM;LAM WITH JEEM;LAM WITH HAH;
    LAM WITH KHAH;LAM WITH MEEM;LAM WITH HEH;MEEM WITH JEEM;MEEM WITH HAH;MEEM WITH KHAH;
    MEEM WITH MEEM;NOON WITH JEEM;NOON WITH HAH;NOON WITH KHAH;NOON WITH MEEM;NOON WITH HEH;
    HEH WITH JEEM;HEH WITH MEEM;HEH WITH SUPERSCRIPT ALEF;YEH WITH JEEM;YEH WITH HAH;YEH WITH KHAH;
    YEH WITH MEEM;YEH WITH HEH/FCDF ARABIC LIGATURE * WITH MEEM MEDIAL FORM|
    ARABIC LIGATURE * WITH HEH MEDIAL FORM:YEH WITH HAMZA ABOVE;BEH;TEH;THEH;SEEN;SHEEN/
    FCEB ARABIC LIGATURE * MEDIAL FORM:KAF WITH LAM;KAF WITH MEEM;LAM WITH MEEM;NOON WITH MEEM;
    NOON WITH HEH;YEH WITH MEEM;YEH WITH HEH;SHADDA WITH FATHA;SHADDA WITH DAMMA;SHADDA WITH KASRA/
    FCF5 ARABIC LIGATURE * WITH ALEF MAKSURA ISOLATED FORM|
    ARABIC LIGATURE * WITH YEH ISOLATED FORM:TAH;AIN;GHAIN;SEEN;SHEEN;HAH;JEEM;KHAH;SAD;DAD/
    FD09 ARABIC LIGATURE SHEEN WITH * ISOLATED FORM:JEEM;HAH;KHAH;MEEM;REH/
    FD0E ARABIC LIGATURE * WITH REH ISOLATED FORM:SEEN;SAD;DAD/
    FD11 ARABIC LIGATURE * WITH ALEF MAKSURA FINAL FORM|ARABIC LIGATURE * WITH YEH FINAL FORM:TAH;
    AIN;GHAIN;SEEN;SHEEN;HAH;JEEM;KHAH;SAD;DAD/FD25 ARABIC LIGATURE SHEEN WITH * FINAL FORM:JEEM;
    HAH;KHAH;MEEM;REH/FD2A ARABIC LIGATURE * WITH REH FINAL FORM:SEEN;SAD;DAD/
    FD2D ARABIC LIGATURE * INITIAL FORM:SHEEN WITH JEEM;SHEEN WITH HAH;SHEEN WITH KHAH;
    SHEEN WITH MEEM;SEEN WITH HEH;SHEEN WITH HEH;TAH WITH MEEM/FD34 ARABIC LIGATURE * MEDIAL FORM:
    SEEN WITH JEEM;SEEN WITH HAH;SEEN WITH KHAH;SHEEN WITH JEEM;SHEEN WITH HAH;SHEEN WITH KHAH;
    TAH WITH MEEM;ZAH WITH MEEM/FD3C ARABIC LIGATURE ALEF WITH FATHATAN * FORM:FINAL;ISOLATED/
    FD3E ORNATE * PARENTHESIS:LEFT;RIGHT/FD40:ARABIC LIGATURE RAHIMAHU ALLAAH/
    FD41 ARABIC LIGATURE RADI ALLAAHU *:ANH;ANHAA;ANHUM;ANHUMAA;ANHUNNA/FD46 ARABIC LIGATURE *:
    SALLALLAAHU ALAYHI WA-AALIH;ALAYHI AS-SALAAM;ALAYHIM AS-SALAAM;ALAYHIMAA AS-SALAAM;
    ALAYHI AS-SALAATU WAS-SALAAM;QUDDISA SIRRAH;SALLALLAHU ALAYHI WAAALIHEE WA-SALLAM;
    ALAYHAA AS-SALAAM;TABAARAKA WA-TAAALAA;RAHIMAHUM ALLAAH;TEH WITH JEEM WITH MEEM INITIAL FORM;
    TEH WITH HAH WITH JEEM FINAL FORM/FD52 ARABIC LIGATURE TEH WITH * INITIAL FORM:HAH WITH JEEM;
    HAH WITH MEEM;KHAH WITH MEEM;MEEM WITH JEEM;MEEM WITH HAH;MEEM WITH KHAH/
    FD58 ARABIC LIGATURE JEEM WITH MEEM WITH HAH * FORM:FINAL;INITIAL/
    FD5A ARABIC LIGATURE HAH WITH MEEM WITH * FINAL FORM:YEH;ALEF MAKSURA/
    FD5C ARABIC LIGATURE SEEN WITH * FORM:HAH WITH JEEM INITIAL;JEEM WITH HAH INITIAL;
    JEEM WITH ALEF MAKSURA FINAL/FD5F ARABIC LIGATURE SEEN WITH MEEM WITH * FORM:HAH FINAL;
    HAH INITIAL;JEEM INITIAL;MEEM FINAL;MEEM INITIAL/FD64 ARABIC LIGATURE SAD WITH * FORM:
    HAH WITH HAH FINAL;HAH WITH HAH INITIAL;MEEM WITH MEEM FINAL/
    FD67 ARABIC LIGATURE SHEEN WITH * FORM:HAH WITH MEEM FINAL;HAH WITH MEEM INITIAL;
    JEEM WITH YEH FINAL;MEEM WITH KHAH FINAL;MEEM WITH KHAH INITIAL;MEEM WITH MEEM FINAL;
    MEEM WITH MEEM INITIAL/FD6E ARABIC LIGATURE DAD WITH * FORM:HAH WITH ALEF MAKSURA FINAL;
    KHAH WITH MEEM FINAL;KHAH WITH MEEM INITIAL/FD71 ARABIC LIGATURE TAH WITH MEEM WITH * FORM:
    HAH FINAL;HAH INITIAL;MEEM INITIAL;YEH FINAL/FD75 ARABIC LIGATURE AIN WITH * FORM:
    JEEM WITH MEEM FINAL;MEEM WITH MEEM FINAL;MEEM WITH MEEM INITIAL;MEEM WITH ALEF MAKSURA FINAL/
    FD79 ARABIC LIGATURE GHAIN WITH MEEM WITH * FINAL FORM:MEEM;YEH;ALEF MAKSURA/
    FD7C ARABIC LIGATURE FEH WITH KHAH WITH MEEM * FORM:FINAL;INITIAL/
    FD7E ARABIC LIGATURE QAF WITH MEEM WITH * FINAL FORM:HAH;MEEM/
    FD80 ARABIC LIGATURE LAM WITH * FORM:HAH WITH MEEM FINAL;HAH WITH YEH FINAL;
    HAH WITH ALEF MAKSURA FINAL;JEEM WITH JEEM INITIAL;JEEM WITH JEEM FINAL;KHAH WITH MEEM FINAL;
    KHAH WITH MEEM INITIAL;MEEM WITH HAH FINAL;MEEM WITH HAH INITIAL/
    FD89 ARABIC LIGATURE MEEM WITH HAH WITH * FORM:JEEM INITIAL;MEEM INITIAL;YEH FINAL/
    FD8C ARABIC LIGATURE MEEM WITH * INITIAL FORM:JEEM WITH HAH;JEEM WITH MEEM;KHAH WITH JEEM;
    KHAH WITH MEEM/FD92 ARABIC LIGATURE * INITIAL FORM:MEEM WITH JEEM WITH KHAH;
    HEH WITH MEEM WITH JEEM;HEH WITH MEEM WITH MEEM/FD95 ARABIC LIGATURE NOON WITH * FORM:
    HAH WITH MEEM INITIAL;HAH WITH ALEF MAKSURA FINAL;JEEM WITH MEEM FINAL;JEEM WITH MEEM INITIAL;
    JEEM WITH ALEF MAKSURA FINAL;MEEM WITH YEH FINAL;MEEM WITH ALEF MAKSURA FINAL/
    FD9C ARABIC LIGATURE * FORM:YEH WITH MEEM WITH MEEM FINAL;YEH WITH MEEM WITH MEEM INITIAL;
    BEH WITH KHAH WITH YEH FINAL/FD9F ARABIC LIGATURE TEH WITH * WITH YEH FINAL FORM|
    ARABIC LIGATURE TEH WITH * WITH ALEF MAKSURA FINAL FORM:JEEM;KHAH;MEEM/
    FDA5:ARABIC LIGATURE JEEM WITH MEEM WITH YEH FINAL FORM/
    FDA6 ARABIC LIGATURE * WITH ALEF MAKSURA FINAL FORM:JEEM WITH HAH;JEEM WITH MEEM;
    SEEN WITH KHAH/FDA9 ARABIC LIGATURE * WITH YEH FINAL FORM:SAD WITH HAH;SHEEN WITH HAH;
    DAD WITH HAH;LAM WITH JEEM;LAM WITH MEEM;YEH WITH HAH;YEH WITH JEEM;YEH WITH MEEM;
    MEEM WITH MEEM;QAF WITH MEEM;NOON WITH HAH/FDB4 ARABIC LIGATURE * FORM:
    QAF WITH MEEM WITH HAH INITIAL;LAM WITH HAH WITH MEEM INITIAL;AIN WITH MEEM WITH YEH FINAL;
    KAF WITH MEEM WITH YEH FINAL;NOON WITH JEEM WITH HAH INITIAL;MEEM WITH KHAH WITH YEH FINAL;
    LAM WITH JEEM WITH MEEM INITIAL;KAF WITH MEEM WITH MEEM FINAL;LAM WITH JEEM WITH MEEM FINAL;
    NOON WITH JEEM WITH HAH FINAL/FDBE ARABIC LIGATURE * WITH YEH FINAL FORM:JEEM WITH HAH;
    HAH WITH JEEM;MEEM WITH JEEM;FEH WITH MEEM;BEH WITH HAH/
    FDC3 ARABIC LIGATURE * WITH MEEM INITIAL FORM:KAF WITH MEEM;AIN WITH JEEM;SAD WITH MEEM/
    FDC6 ARABIC LIGATURE * WITH YEH FINAL FORM:SEEN WITH KHAH;NOON WITH JEEM/
    FDCF:ARABIC LIGATURE SALAAMUHU ALAYNAA/FDF0 ARABIC LIGATURE * ISOLATED FORM:
    SALLA USED AS KORANIC STOP SIGN;QALA USED AS KORANIC STOP SIGN;ALLAH;AKBAR;MOHAMMAD;SALAM;
    RASOUL;ALAYHE;WASALLAM;SALLA/FDFA ARABIC LIGATURE *:SALLALLAHOU ALAYHE WASALLAM;
    JALLAJALALOUHOU/FDFC:RIAL SIGN/FDFD ARABIC LIGATURE *:BISMILLAH AR-RAHMAN AR-RAHEEM;
    SUBHAANAHU WA TAAALAA;AZZA WA JALL/FE00 VARIATION SELECTOR-*:1;2;3;4;5;6;7;8;9;10;11;12;13;14;
    15;16/FE10 PRESENTATION FORM FOR VERTICAL *:COMMA;IDEOGRAPHIC COMMA;IDEOGRAPHIC FULL STOP;
    COLON;SEMICOLON;EXCLAMATION MARK;QUESTION MARK;LEFT WHITE LENTICULAR BRACKET;
    RIGHT WHITE LENTICULAR BRAKCET;HORIZONTAL ELLIPSIS/FE20 COMBINING * LEFT HALF|
    COMBINING * RIGHT HALF:LIGATURE;DOUBLE TILDE;MACRON/FE26:COMBINING CONJOINING MACRON/
    FE27 COMBINING * LEFT HALF BELOW|COMBINING * RIGHT HALF BELOW:LIGATURE;TILDE;MACRON/
    FE2D:COMBINING CONJOINING MACRON BELOW/FE2E COMBINING CYRILLIC TITLO * HALF:LEFT;RIGHT/
    FE30 PRESENTATION FORM FOR VERTICAL *:TWO DOT LEADER;EM DASH;EN DASH;LOW LINE;WAVY LOW LINE;
    LEFT PARENTHESIS;RIGHT PARENTHESIS/FE37 PRESENTATION FORM FOR VERTICAL LEFT * BRACKET|
    PRESENTATION FORM FOR VERTICAL RIGHT * BRACKET:CURLY;TORTOISE SHELL;BLACK LENTICULAR;
    DOUBLE ANGLE;ANGLE;CORNER;WHITE CORNER/FE45 * DOT:SESAME;WHITE SESAME/
    FE47 PRESENTATION FORM FOR VERTICAL * SQUARE BRACKET:LEFT;RIGHT/FE49 * OVERLINE:DASHED;
    CENTRELINE;WAVY;DOUBLE WAVY/FE4D * LOW LINE:DASHED;CENTRELINE;WAVY/FE50 SMALL *:COMMA;
    IDEOGRAPHIC COMMA;FULL STOP/FE54 SMALL *:SEMICOLON;COLON;QUESTION MARK;EXCLAMATION MARK;
    EM DASH/FE59 SMALL LEFT *|SMALL RIGHT *:PARENTHESIS;CURLY BRACKET;TORTOISE SHELL BRACKET/
    FE5F SMALL *:NUMBER SIGN;AMPERSAND;ASTERISK;PLUS SIGN;HYPHEN-MINUS;LESS-THAN SIGN;
    GREATER-THAN SIGN;EQUALS SIGN/FE68 SMALL *:REVERSE SOLIDUS;DOLLAR SIGN;PERCENT SIGN;
    COMMERCIAL AT/FE70 ARABIC *:FATHATAN ISOLATED FORM;TATWEEL WITH FATHATAN ABOVE;
    DAMMATAN ISOLATED FORM;TAIL FRAGMENT;KASRATAN ISOLATED FORM/FE76 ARABIC * ISOLATED FORM|
    ARABIC * MEDIAL FORM:FATHA;DAMMA;KASRA;SHADDA;SUKUN/FE80:ARABIC LETTER HAMZA ISOLATED FORM/
    FE81 ARABIC LETTER * ISOLATED FORM|ARABIC LETTER * FINAL FORM:ALEF WITH MADDA ABOVE;
    ALEF WITH HAMZA ABOVE;WAW WITH HAMZA ABOVE;ALEF WITH HAMZA BELOW;YEH WITH HAMZA ABOVE/
    FE8B ARABIC LETTER * FORM:YEH WITH HAMZA ABOVE INITIAL;YEH WITH HAMZA ABOVE MEDIAL;
    ALEF ISOLATED;ALEF FINAL;BEH ISOLATED;BEH FINAL;BEH INITIAL;BEH MEDIAL;TEH MARBUTA ISOLATED;
    TEH MARBUTA FINAL/FE95 ARABIC LETTER * ISOLATED FORM|ARABIC LETTER * FINAL FORM|
    ARABIC LETTER * INITIAL FORM|ARABIC LETTER * MEDIAL FORM:TEH;THEH;JEEM;HAH;KHAH/
    FEA9 ARABIC LETTER * ISOLATED FORM|ARABIC LETTER * FINAL FORM:DAL;THAL;REH;ZAIN/
    FEB1 ARABIC LETTER * ISOLATED FORM|ARABIC LETTER * FINAL FORM|ARABIC LETTER * INITIAL FORM|
    ARABIC LETTER * MEDIAL FORM:SEEN;SHEEN;SAD;DAD;TAH;ZAH;AIN;GHAIN;FEH;QAF;KAF;LAM;MEEM;NOON;HEH/
    FEED ARABIC LETTER * ISOLATED FORM|ARABIC LETTER * FINAL FORM:WAW;ALEF MAKSURA;YEH/
    FEF3 ARABIC LETTER YEH * FORM:INITIAL;MEDIAL/
    FEF5 ARABIC LIGATURE LAM WITH ALEF WITH * ISOLATED FORM|
    ARABIC LIGATURE LAM WITH ALEF WITH * FINAL FORM:MADDA ABOVE;HAMZA ABOVE;HAMZA BELOW/
    FEFB ARABIC LIGATURE LAM WITH ALEF * FORM:ISOLATED;FINAL/FEFF:ZERO WIDTH NO-BREAK SPACE/
    FF01 FULLWIDTH *:EXCLAMATION MARK;QUOTATION MARK;NUMBER SIGN;DOLLAR SIGN;PERCENT SIGN;
    AMPERSAND;APOSTROPHE;LEFT PARENTHESIS;RIGHT PARENTHESIS;ASTERISK;PLUS SIGN;COMMA;HYPHEN-MINUS;
    FULL STOP;SOLIDUS/FF10 FULLWIDTH DIGIT *:ZERO;ONE;TWO;THREE;FOUR;FIVE;SIX;SEVEN;EIGHT;NINE/
    FF1A FULLWIDTH *:COLON;SEMICOLON;LESS-THAN SIGN;EQUALS SIGN;GREATER-THAN SIGN;QUESTION MARK;
    COMMERCIAL AT/FF21 FULLWIDTH LATIN CAPITAL LETTER *:A;B;C;D;E;F;G;H;I;J;K;L;M;N;O;P;Q;R;S;T;U;
    V;W;X;Y;Z/FF3B FULLWIDTH *:LEFT SQUARE BRACKET;REVERSE SOLIDUS;RIGHT SQUARE BRACKET;
    CIRCUMFLEX ACCENT;LOW LINE;GRAVE ACCENT/FF41 FULLWIDTH LATIN SMALL LETTER *:A;B;C;D;E;F;G;H;I;
    J;K;L;M;N;O;P;Q;R;S;T;U;V;W;X;Y;Z/FF5B FULLWIDTH *:LEFT CURLY BRACKET;VERTICAL LINE;
    RIGHT CURLY BRACKET;TILDE;LEFT WHITE PARENTHESIS;RIGHT WHITE PARENTHESIS/FF61 HALFWIDTH *:
    IDEOGRAPHIC FULL STOP;LEFT CORNER BRACKET;RIGHT CORNER BRACKET;IDEOGRAPHIC COMMA;
    KATAKANA MIDDLE DOT;KATAKANA LETTER WO/FF67 HALFWIDTH KATAKANA LETTER SMALL *:A;I;U;E;O;YA;YU;
    YO;TU/FF70:HALFWIDTH KATAKANA-HIRAGANA PROLONGED SOUND MARK/FF71 HALFWIDTH KATAKANA LETTER *:A;
    I;U;E;O;KA;KI;KU;KE;KO;SA;SI;SU;SE;SO;TA;TI;TU;TE;TO;NA;NI;NU;NE;NO;HA;HI;HU;HE;HO;MA;MI;MU;ME;
    MO;YA;YU;YO;RA;RI;RU;RE;RO;WA;N/FF9E HALFWIDTH KATAKANA * SOUND MARK:VOICED;SEMI-VOICED/
    FFA0:HALFWIDTH HANGUL FILLER/FFA1 HALFWIDTH HANGUL LETTER *:KIYEOK;SSANGKIYEOK;KIYEOK-SIOS;
    NIEUN;NIEUN-CIEUC;NIEUN-HIEUH;TIKEUT;SSANGTIKEUT;RIEUL;RIEUL-KIYEOK;RIEUL-MIEUM;RIEUL-PIEUP;
    RIEUL-SIOS;RIEUL-THIEUTH;RIEUL-PHIEUPH;RIEUL-HIEUH;MIEUM;PIEUP;SSANGPIEUP;PIEUP-SIOS;SIOS;
    SSANGSIOS;IEUNG;CIEUC;SSANGCIEUC;CHIEUCH;KHIEUKH;THIEUTH;PHIEUPH;HIEUH/
    FFC2 HALFWIDTH HANGUL LETTER *:A;AE;YA;YAE;EO;E/FFCA HALFWIDTH HANGUL LETTER *:YEO;YE;O;WA;WAE;
    OE/FFD2 HALFWIDTH HANGUL LETTER *:YO;U;WEO;WE;WI;YU/FFDA HALFWIDTH HANGUL LETTER *:EU;YI;I/
    FFE0 FULLWIDTH *:CENT SIGN;POUND SIGN;NOT SIGN;MACRON;BROKEN BAR;YEN SIGN;WON SIGN/
    FFE8 HALFWIDTH *:FORMS LIGHT VERTICAL;LEFTWARDS ARROW;UPWARDS ARROW;RIGHTWARDS ARROW;
    DOWNWARDS ARROW;BLACK SQUARE;WHITE CIRCLE/FFF9 INTERLINEAR ANNOTATION *:ANCHOR;SEPARATOR;
    TERMINATOR/FFFC * CHARACTER:OBJECT REPLACEMENT;REPLACEMENT"

end DocSuite.Text
