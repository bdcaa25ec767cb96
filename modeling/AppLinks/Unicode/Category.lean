import AppLinks.Unicode.Runs

/-!
General categories of characters.

Every code point has exactly one category. The categories fall into groups, such as the letters
or the marks, and each category and each group has a short and a long name.
-/

namespace AppLinks.Unicode

inductive Category where
  | uppercaseLetter
  | lowercaseLetter
  | titlecaseLetter
  | modifierLetter
  | otherLetter
  | nonspacingMark
  | spacingMark
  | enclosingMark
  | decimalNumber
  | letterNumber
  | otherNumber
  | connectorPunctuation
  | dashPunctuation
  | openPunctuation
  | closePunctuation
  | initialPunctuation
  | finalPunctuation
  | otherPunctuation
  | mathSymbol
  | currencySymbol
  | modifierSymbol
  | otherSymbol
  | spaceSeparator
  | lineSeparator
  | paragraphSeparator
  | control
  | format
  | surrogate
  | privateUse
  | unassigned
  deriving DecidableEq, Repr

namespace Category

/-- All categories, in the order in which the table numbers them. -/
def all : List Category :=
  [.uppercaseLetter, .lowercaseLetter, .titlecaseLetter, .modifierLetter, .otherLetter,
    .nonspacingMark, .spacingMark, .enclosingMark, .decimalNumber, .letterNumber, .otherNumber,
    .connectorPunctuation, .dashPunctuation, .openPunctuation, .closePunctuation,
    .initialPunctuation, .finalPunctuation, .otherPunctuation, .mathSymbol, .currencySymbol,
    .modifierSymbol, .otherSymbol, .spaceSeparator, .lineSeparator, .paragraphSeparator,
    .control, .format, .surrogate, .privateUse, .unassigned]

def table : Runs := .ofString
  "B0p1m3h1j3h1d1e1h1i1h1c2ha82h3i2hq01d1h1e1k1b1kq11d1i1e1iB1p1m1h4j1l1h1k1l141f1i1q1l1k1l1i2a
  1k112h1k1a141g3a1hn01i70o11i8110111011101110111011101110111011101110111011101110111011101110
  11101110111011101110111011101110111011101110111021101110111011101110111011101110211011101110
  11101110111011101110111011101110111011101110111011101110111011101110111011101110112011101110
  31201110112011302140112011303120112011101110112011102110112011301110112021141031441012111012
  11101211101110111011101110111011101110211011101110111011101110111011101110211012111011301110
  11101110111011101110111011101110111011101110111011101110111011101110111011101110111011101110
  1110111011101110111071201120211011401110111011101110C5114r1i34kc3ek537k131k13hkDg51011101113
  1k10112t13311h104t2k101h301t101t2011h01t90B3110213031101110111011101110111011101110111011101
  11011105110111i10112021Bj0Bg1101110111011101110111011101110111011101110111011101110111011101
  110111l5527101110111011101110111011101110111011101110111011101110111011101110111011101110111
  01110111011101110111011101120111011101110111011101110211011101110111011101110111011101110111
  01110111011101110111011101110111011101110111011101110111011101110111011101110111011101110111
  0111011101110111011101110111011101110111011101110111011101110111tB602t136hB911h1c2t2l1j1tBd5
  1c151h251h251h158tr44t442hbt6q3i2h1j2h2lb51h1q3hB0413a4l5a84h2415D341h14751q1l6523251l4524a8
  342l14eh1t1q1415u4r52tCp4b514eta8B1495231l3h132t152jm4451395133513552tfh1tp4352t1h1tb45to41k
  641t2q6t85B9413o51qB0516Bm41516151436854615261475a4252ha81h13f415261t842t242tm41t741t143t442
  t151436452t262t2615148t164t241t34252ta8242j6a1l1j141h152t25161t644t242tm41t741t241t241t242t1
  51t36254t252t353t157t441t147ta82534151hat25161t941t341tm41t741t241t542t151436551t25161t26152
  t14ft24252ta81h1j7t14651t15261t842t242tm41t741t241t542t1514161516452t262t26157t25164t241t342
  52ta81l146aat15141t643t341t443t241t141t243t243t343tc44t2615263t361t36152t146t16eta83a6l1j1l5
  t153615841t341tn41tg42t151435461t351t457t251t342t142t24252ta87t1h7a1l1415261h841t341tn41ta41
  t542t15141615561t15261t26257t266t241t24252ta81t2416ct2526941t341tB94251436451t361t3615141l4t
  34167a34252ta89a1l641t15261ti43to41t941t142t743t154t36351t151t866ta82t261hctBg41524754t1j641
  3851ha82hB5t241t141t541to41t141ta4152495142t541t131t751ta82t44B0t143lfh1l1h3l256la8aa1l151l1
  51l151d1e1d1e26841tB444te516551h2554b51tB451t8l156l1t2l5h4l2hB5tBb4264516651625262514a86h642
  6254435143624763445d415262566151416a836152lB601t105t102tBb11h1331K941t442t741t141t442tB941t4
  42tB141t442t741t141t442tf41tBp41t442tC342t359hka3tg4al6tCm02t612t1cTc41l1hh41mq41d1e3tCb43h3
  9847ti435169tj425162h9ti425ctd41t341t25ctBk4251675861526b53h133h1j14152ta86taa6t6h1c4h351q15
  a86tB3413Bl47t5425B2415145tC64atv41t354625364t261566354t1l3t2ha8u42t54btBc44tq46ta81a3tB2ln4
  2526152t2hBl4161516751t151615268566a52t15a86ta86t7h136h2te517g5Bht4516Bf41516551615561526843
  ta87hal959l2h1t2516u416452625163524a8Bc415162536151635268t4hB44868526253t5ha83t34a8u4632h917
  tBb02t308h8t351hd5167544156415241625145tBc1Bv3d113B21B53C05101110111011101110111011101110111
  01110111011101110111011101110111011101110111011101110111011101110111011101110111011101110111
  01110111011101110111011101110111011101110111011101110111011101110111011101110111011101110111
  01110111011101110111011101110111011101110111011101110111011101110111011101110111091101110111
  01110111011101110111011101110111011101110111011101110111011101110111011101110111011101110111
  01110111011101110111011101110111011101110111011101110111011101110111011101110111011101110111
  09180612t602t81808180612t602t811t101t101t101t108180e12t818281828182511t2140121k113k311t21401
  23k412t21401t3k81503k2t311t2140122k1tbm5q6c2h1f1g1d2f1g1d1f8h1n1o5q1m9h1f1g4h2b3h1i1d1ebh1i1
  h1bah1m5q1taq1a132t6a3i1d1e13aa3i1d1e1td33tB1jftd5471537c5ft2l104l102l11302130111l102l1i506l
  101l101l101l401l11401144112l21205i10411l1i2l111lgaB391011491a2l4t5i5l2i4l1i2l1i2l1i7l1ivl2i2
  l1i1l1ivlIci8l1d1e1d1ekl2i7l1d1eChl1iulpiB8l6iC5lptblltBsaCelmaFnl1i9l1iBml8iDfl1iHol1d1e1d1
  e1d1e1d1e1d1e1d1e1d1euaBcl5i1d1evi1d1e1d1e1d1e1d1e1d1egiI0lE3i1d1e1d1e1d1e1d1e1d1e1d1e1d1e1d
  1e1d1e1d1e1d1eBvi1d1e1d1eB0i1d1eI2iBglli2l6iB7l2tB0l1tD9lBg0Bg110113021101110111011401110211
  06123301110111011101110111011101110111011101110111011101110111011101110111011101110111011101
  11011101110111011101110111011101110111011101110111011101110111011101110111011101110111011101
  1101110111011101110216l101110113510115t4h1a2hB611t115t112tBo47t131het15n49t741t741t741t741t7
  41t741t741t741tB052h1f1g1f1g3h1f1g1h1f1g9h1c2h1c1h1f1g2h1f1g1d1e1d1e1d1e1d1e5h13ah2c4h1c1h1d
  dh2l3h1d1e1d1e1d1e1d1e1cB2tql1tCplctGmlqtcl4t1m3h1l1314191d1e1d1e1d1e1d1e1d1e2l1d1e1d1e1d1e1
  d1e1c1d2e1l9945261c532l3913141h2l1tCm42t252k23141cCq41h33145tBb41tCu41t2l4aalB04B4lctg4vl1ta
  aul8a1lfaB0laaB7lfaK0lGO04C0lUQl413BDn43tBnl9tB84632hIc4133hg4a824kt101110111011101110111011
  101110111011101110111011101110111011101110111011101110111011101110111415371ha51h131011101110
  11101110111011101110111011101110111011101110112325C64a9256h8tnk932k1011101110111011101110111
  03110111011101110111011101110111011101110111011101110111011101110111011101110111011101110111
  0111011101110111011101110111011101113811011101120111011101110111011132k101110111410111031101
  1101110111011101110111011101110111011501150111011101110111011101110111011401110115t10111t111
  t1110111011ot331011142311741534154415n42625164l153t6a2l1j1l6tBk44h8t26Bi4g6258t2ha86ti5643h1
  41h2415a8s4852hn4b526bt1ht43t3516Bf4152645262536dh1t13a84t2h54151394a8541tB9465262526259t341
  58415162ta82t4hg413643l14161516Bi415143524255425141514ot24132hb41625262h14231615at642t642t64
  9t741t741tBb11k4391132k4tCg1B3426152615261h16152ta86tKz44ctn44tBh44tCA0rGI0sLe42tDa4B6t71ct5
  15t1415a41id41t541t141t241t241tDc4hkgtLb41e1dglC042tBm47t1lB0tc41j3lg57h1d1e1h6tg51h2c2b1d1e
  1d1e1d1e1d1e1d1e1d1e1d1e1d1e2h1d1e4h3b3h1t4h1c1d1e1d1e1d1e3h1i1c3i1t1h1j2h4t541tE742t1q1t3h1
  j3h1d1e1h1i1h1c2ha82h3i2hq01d1h1e1k1b1kq11d1i1e1i1d1e1h1d1e2ha413Bd423v43t642t642t642t343t2j
  1i1k1l2j1t1l4i2lat3q2l2tc41tq41tj41t241tf42te4B2tDr45t3h4tBda3t9lBl94ahl2a3l1tdl3t1lBftBdl15
  E2tt43tBh4ft15ra4tB044a9tk41984195tB64555tu41t1hB444t841h59BatB80B81Ce42ta86tB404tB414tB848t
  Bk4bt1hb01tf01t701t201tb11tf11t711t21C3tJn49tm4at84ot631tBa31t93C5t642t141tBc41t243t142tn41t
  1h8an42l7av48t9aBgtj41t245t5am46a3t1hq45t1hC0tBo44t2a24ga2tBea14351t255t45441t341tt42t354t15
  9a7t9h7tt42a1ht43aB0t841ls4254t5a7h9tBm43t7hm42t8aj45t8ai47t4hct7aCgtC94BntBj0dtBj17t6aB4445
  8ta8J6tva1tBa41t251c2t24Cbt35t4aa148tm4b54a5hmti4454hB6tl47aktn49t161516Bl4f57h4tkaa81524251
  49t3516Bd4364526252h1q4h15at1q2tp47ta86t35B445516851ta84h1426148tB34152h149t2516Bg4369526444
  h451h1615a8141h143h1tkabti41tp43635261516256h152415But741t141t441tf41ta41h6tBf41536855ta86t2
  5261t842t242tm41t741t241t541t25142615462t262t362t146t165t54262t753t55EbtBl4368526351615445ha
  82h1t1h1534utBg43665161546251625241h148ta8F6tBf436452t46251625nh4425B2tBg43685261516253h14bt
  a86tdhjtBb415161526651615141h6ta8Bmtr42t35264516554ta82a3h1l74FptBc4369516251hD4tB00B01a89ac
  t842t142t841t241to4661t262t25161514161416153h9ta8C6t842tB7436452t254615141h1416rt14a5B846516
  14458h158t14652635Be4d516253h145hdtC947tahHmt941tB5416751t651615145hata8ja3t2hu42tm51t167516
  251625C9t741t241tB64653t151t251t7514158ta86t641t241tB04561t251t26151615147ta8Jmtj425262h7t25
  1416d41tB2426553t26151615dha8Cmt14ftla8l4jhldt1hyq4D6tDf91t5hbtG44CSctD142hdtBBg4gq1564f5Dza
  tS74INptRp47tv41ta84t2hCf41ta86tu42t551hatBg4755h4l431h1lata81t7a1tl45tj4VgtB00B01na4hD5tCb4
  4t1514Bn67t45d3C0t231h1315bt26etF-o48tBGm4Bat94IX7t431t731t231tJ34ft14tt342t14et448tMc4CI4tD
  b45td43t947ta42t1l251h4qESstBe52tn59tDklBstHmlatB7l2tBsl26353l668q852l75ul45BtlltC2l351lDqtk
  actkactCnl9tpaE7tq0q1q0711ti1q0q1101t202t102t202t401t80411t111t711tb1q0q1201t402t801t701tq12
  01t401t501t103t701tq1q0q1q0q1q0q1q0q1q0q1q0s12tp01ip11i61p01ip11i61p01ip11i61p01ip11i61p01ip
  11i6110112tBi8Q0lBn54lBi58l15el152l5hft551tf5BCgta114k16t61Glt751th52t751t251t555tBu3B1t15Dg
  tBd43t75732ta84t141lK0tu415htBc445a85t1jOgtr41345a8X6t741t441t241tf41tG542t9a75B9tB20B217513
  4ta84t2hYhtBra1l3a1j4aCctBda1lfaG2t441tr41t241t142t141ta41t441t141t146t144t141t141t141t341t2
  41t142t141t141t141t141t141t241t142t441t741t441t441t141ta41th45t341t541th4Bkt2iIetBcl4tD4lctf
  l2tfl1tfl1tB5latdaF1lBottldtBcl4t9l7t2let6lEqtHrl5kWol4thl3tdl3tDnl4tCvl6tcl4t1lftcl4tBol8ta
  l6tB8l8tul2t2lCetKklctel2tdl3t9l7tBel1t7l8tel4t9l7t9l7tEjl1tBnlB5ta8BA6tBJX04B0tEBq46tGu42tF
  U24etHJh4DAvtQu4BP2tEwb45tED04VXCht1qutD0qE0tHg5B-QgtB--us2tB--us2t"

def of (c : Char) : Category :=
  ((table.value? c.toNat).bind (all[·]?)).getD .unassigned

def letter : List Category :=
  [.uppercaseLetter, .lowercaseLetter, .titlecaseLetter, .modifierLetter, .otherLetter]

def casedLetter : List Category := [.uppercaseLetter, .lowercaseLetter, .titlecaseLetter]

def mark : List Category := [.nonspacingMark, .spacingMark, .enclosingMark]

def number : List Category := [.decimalNumber, .letterNumber, .otherNumber]

def punctuation : List Category :=
  [.connectorPunctuation, .dashPunctuation, .openPunctuation, .closePunctuation,
    .initialPunctuation, .finalPunctuation, .otherPunctuation]

def symbol : List Category := [.mathSymbol, .currencySymbol, .modifierSymbol, .otherSymbol]

def separator : List Category := [.spaceSeparator, .lineSeparator, .paragraphSeparator]

def other : List Category := [.control, .format, .surrogate, .privateUse, .unassigned]

/-- The categories that a name stands for. Names are written in lower case without separators. -/
def named? : String → Option (List Category)
  | "l" | "letter" => some letter
  | "lc" | "casedletter" => some casedLetter
  | "m" | "mark" | "combiningmark" => some mark
  | "n" | "number" => some number
  | "p" | "punctuation" | "punct" => some punctuation
  | "s" | "symbol" => some symbol
  | "z" | "separator" => some separator
  | "c" | "other" => some other
  | "lu" | "uppercaseletter" => some [.uppercaseLetter]
  | "ll" | "lowercaseletter" => some [.lowercaseLetter]
  | "lt" | "titlecaseletter" => some [.titlecaseLetter]
  | "lm" | "modifierletter" => some [.modifierLetter]
  | "lo" | "otherletter" => some [.otherLetter]
  | "mn" | "nonspacingmark" => some [.nonspacingMark]
  | "mc" | "spacingmark" => some [.spacingMark]
  | "me" | "enclosingmark" => some [.enclosingMark]
  | "nd" | "decimalnumber" | "digit" => some [.decimalNumber]
  | "nl" | "letternumber" => some [.letterNumber]
  | "no" | "othernumber" => some [.otherNumber]
  | "pc" | "connectorpunctuation" => some [.connectorPunctuation]
  | "pd" | "dashpunctuation" => some [.dashPunctuation]
  | "ps" | "openpunctuation" => some [.openPunctuation]
  | "pe" | "closepunctuation" => some [.closePunctuation]
  | "pi" | "initialpunctuation" => some [.initialPunctuation]
  | "pf" | "finalpunctuation" => some [.finalPunctuation]
  | "po" | "otherpunctuation" => some [.otherPunctuation]
  | "sm" | "mathsymbol" => some [.mathSymbol]
  | "sc" | "currencysymbol" => some [.currencySymbol]
  | "sk" | "modifiersymbol" => some [.modifierSymbol]
  | "so" | "othersymbol" => some [.otherSymbol]
  | "zs" | "spaceseparator" => some [.spaceSeparator]
  | "zl" | "lineseparator" => some [.lineSeparator]
  | "zp" | "paragraphseparator" => some [.paragraphSeparator]
  | "cc" | "control" | "cntrl" => some [.control]
  | "cf" | "format" => some [.format]
  | "cs" | "surrogate" => some [.surrogate]
  | "co" | "privateuse" => some [.privateUse]
  | "cn" | "unassigned" => some [.unassigned]
  | _ => none

end Category

end AppLinks.Unicode
