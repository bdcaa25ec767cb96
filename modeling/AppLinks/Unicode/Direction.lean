import AppLinks.Unicode.Runs

/-!
The direction in which characters are written, and the rule on labels of host names in which
directions may be mixed.
-/

namespace AppLinks.Unicode

/-- The classes of direction; those that no label may hold are one class. -/
inductive Direction where
  | leftToRight
  | rightToLeft
  | arabicLetter
  | arabicNumber
  | europeanNumber
  | europeanSeparator
  | commonSeparator
  | europeanTerminator
  | otherNeutral
  | boundaryNeutral
  | nonspacingMark
  | explicit
  deriving DecidableEq, Repr

namespace Direction

def all : List Direction :=
  [.leftToRight, .rightToLeft, .arabicLetter, .arabicNumber, .europeanNumber, .europeanSeparator,
    .commonSeparator, .europeanTerminator, .otherNeutral, .boundaryNeutral, .nonspacingMark,
    .explicit]

def table : Runs := .ofString
  "991b1b1b1b1be93b1b1b28375815161526a41668q068q048691bq916184748102819282724181038141058n018v0
  18O102870e820e8509810h8Dga4028801850281018De018Ec07aI001820281711Bda111a112a112a111aBo163281
  22712161228baBg2laa31723321aD527a13186a222a184a22a4n21au2raCr2baf2Bb19a2148311ao14a119a113a1
  15aBb13a41Bg223628aBa2oa13B0aBn01a101a408a401a307aa02at01aBq01a404a801ak02ae0277017201a202aB
  p01a402a402a203a301au02a301ab02aBp01a405a102a401ak02ad017806a101aBq01a201a104a801a702ab02au0
  1aBt01ac01aB50681718501a301aBn01a103a503a104a702ab02ak078201aBq01af02ak02as02aBp02a404a801ak
  02at01aC801a703a101aCq01a207a4017708aD201a209ab07aC902ar01a101a101a48Bj0ea105a102a50ba10B4a9
  01aD604a106a102a202ap02a403ag04ad01a202a601af01aVv03aBg0a8D6018Tv01bq028Dl03at02au02au02aC00
  2a107a801a20ba7017101ai0a860b83a191aDl02aB201aDm03a402a901a603a40183028Eo0B28n02a201aBq01a10
  7a101a101a208a60aa201aBg0vaBh04aBg01a105a101a501aB809ac02aB004a202a103aBo01a102a301a103aBq08
  a202aEo03a10da107a401a601a302aG60C0aNt0181038b038d038d038d02810bb391011o81b1b1b1b1b1b1b1657f
  816q81b691b1b1b1b69143064253810a42538h0Bg7B1af02810481028a018103850681018101810184017b028405
  8504820g8B903840E281517J28C50q810Eh8p0b8l0B88k4Ce0O2810Kj8I00Tk820B0810D98H5068403a7078Dv01a
  D00B0aCu8B20q810Cp8c0Gm8q0c8401b4830p8904a201850285038Cp02a283018Cq018G40B48Bp028Bh0g8s038Bi
  0f8c048F7048D3028v018GO00C08VUg0Bn8K6038Cv04a18aa28u02aCg02ae0B28D6018Dp01a301a401ap02a10481
  ab027Bq048Cc02aq0iad01aB608ap0baBe03aBg01a204a202aB701aC306a202a202ac01a801aBf01aBj01a103a20
  2a502a101aBa02a801aDj028Dp01a201a401aTZf0111aa115B61Pe2i8Dv218B09d238gaa860gaB08161816101816
  98172825381018271840Ef2191028375815161526a41668q068q0b8Dq0273827107810995829I1018Bu0Cd830d83
  018Cs01aH201ar4Dq05aBE50Iv118H113a112a514aB813a411aF512aCi178O01B424a82a362J01v3Bc12aj1Bt23a
  Bg1m2bav2i14aDq1101aBm0fab0k8a01a202aa03aBh04a202a701aBt03aB405a108aBu01ac02aBk09aa04a201aCv
  03a201a102a601a201aEt01a308al02aBp02a301aB507a305aG308a203a101an01aCk06a101a402a102aHe04a602
  a102ar02aCl08a201a102av0d8Bu01a101a206a101aD503a204a105aI309a102aI002a101a401aEg04a202a401aB
  006a202aB806a204a801a906a203aBe0da102aMm07a106aCk0ma207a102a102aDq06a301a102a107a101aC802a30
  1a101aKr02ab02aBk05a501a101aEi08847h8FCe01a60faNUq05aBr07aBAo01aBv04aCf018101aTFo02a1049ESs0
  Bea20naR003a90898a207au04aBr028l0C283a18Fq0Cn8y4018Bp018Bp018Bp018Bp018a0Bi4Q00Bna40Bia801ae
  01am05a10faBKg07a10ha207a102a105aD401aF007aLn01aBt04af017Pc04aYg0Gg17aDd17aZ51Cg2C01Cg2Fg1Hg
  228e2I01Bc840D48c0f820f810f810B58a0b458v018Bq068Bt018Fi068Eq0+o840h830d830Dn840Cv860c84018f0
  c840Bo880a860B8880u82028Ce0Kk8c0e820d8309870Be8107880e84098709870Ej810Bn8B50a4BA4029B--u029B
  --u029B--u029B--u029B--u029B--u029B--u029B--u029B--u029B--u029B--u029B--u0I29HgaDQg9Bx-u029B
  --u029B--u02900"

def of (c : Char) : Direction := ((table.value? c.toNat).bind (all[·]?)).getD .leftToRight

/-- Whether a character makes a whole host name subject to the rule. -/
def isRightward (c : Char) : Bool :=
  of c ∈ [.rightToLeft, .arabicLetter, .arabicNumber]

/-- Whether a label keeps the rule: its first character sets the direction, it holds only what
goes with that direction, its last character that is no mark fits the direction, and numbers
of the two kinds are not mixed. -/
def allows (label : List Char) : Bool :=
  let classes := label.map of
  let last := (classes.reverse.dropWhile (· = .nonspacingMark)).head?
  match classes.head? with
  | none => true
  | some .leftToRight =>
    classes.all (· ∈ [.leftToRight, .europeanNumber, .europeanSeparator, .commonSeparator,
      .europeanTerminator, .otherNeutral, .boundaryNeutral, .nonspacingMark]) &&
    last.any (· ∈ [.leftToRight, .europeanNumber])
  | some d =>
    (d = .rightToLeft || d = .arabicLetter) &&
    classes.all (· ∈ [.rightToLeft, .arabicLetter, .arabicNumber, .europeanNumber,
      .europeanSeparator, .commonSeparator, .europeanTerminator, .otherNeutral, .boundaryNeutral,
      .nonspacingMark]) &&
    last.any (· ∈ [.rightToLeft, .arabicLetter, .europeanNumber, .arabicNumber]) &&
    !(classes.contains .europeanNumber && classes.contains .arabicNumber)

end Direction

end AppLinks.Unicode
