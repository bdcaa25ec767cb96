import AppLinks.Unicode.Runs

/-!
Scripts of characters.

A character belongs to one script, or to none while it is unassigned. Each script has a long and
a short name. A character used by several scripts also has the list of all of them.
-/

namespace AppLinks.Unicode.Script

/-- The names of the scripts, numbered from one in this order: each line holds the names of one
script, in lower case and without separators. -/
def names : List (List String) :=
  [["adlam", "adlm"],
    ["caucasianalbanian", "aghb"],
    ["ahom"],
    ["arabic", "arab"],
    ["imperialaramaic", "armi"],
    ["armenian", "armn"],
    ["avestan", "avst"],
    ["balinese", "bali"],
    ["bamum", "bamu"],
    ["bassavah", "bass"],
    ["batak", "batk"],
    ["bengali", "beng"],
    ["bhaiksuki", "bhks"],
    ["bopomofo", "bopo"],
    ["brahmi", "brah"],
    ["braille", "brai"],
    ["buginese", "bugi"],
    ["buhid", "buhd"],
    ["chakma", "cakm"],
    ["canadianaboriginal", "cans"],
    ["carian", "cari"],
    ["cham"],
    ["cherokee", "cher"],
    ["chorasmian", "chrs"],
    ["coptic", "copt", "qaac"],
    ["cyprominoan", "cpmn"],
    ["cypriot", "cprt"],
    ["cyrillic", "cyrl"],
    ["devanagari", "deva"],
    ["divesakuru", "diak"],
    ["dogra", "dogr"],
    ["deseret", "dsrt"],
    ["duployan", "dupl"],
    ["egyptianhieroglyphs", "egyp"],
    ["elbasan", "elba"],
    ["elymaic", "elym"],
    ["ethiopic", "ethi"],
    ["georgian", "geor"],
    ["glagolitic", "glag"],
    ["gunjalagondi", "gong"],
    ["masaramgondi", "gonm"],
    ["gothic", "goth"],
    ["grantha", "gran"],
    ["greek", "grek"],
    ["gujarati", "gujr"],
    ["gurmukhi", "guru"],
    ["hangul", "hang"],
    ["han", "hani"],
    ["hanunoo", "hano"],
    ["hatran", "hatr"],
    ["hebrew", "hebr"],
    ["hiragana", "hira"],
    ["anatolianhieroglyphs", "hluw"],
    ["pahawhhmong", "hmng"],
    ["nyiakengpuachuehmong", "hmnp"],
    ["oldhungarian", "hung"],
    ["olditalic", "ital"],
    ["javanese", "java"],
    ["kayahli", "kali"],
    ["katakana", "kana"],
    ["kawi"],
    ["kharoshthi", "khar"],
    ["khmer", "khmr"],
    ["khojki", "khoj"],
    ["khitansmallscript", "kits"],
    ["kannada", "knda"],
    ["kaithi", "kthi"],
    ["taitham", "lana"],
    ["lao", "laoo"],
    ["latin", "latn"],
    ["lepcha", "lepc"],
    ["limbu", "limb"],
    ["lineara", "lina"],
    ["linearb", "linb"],
    ["lisu"],
    ["lycian", "lyci"],
    ["lydian", "lydi"],
    ["mahajani", "mahj"],
    ["makasar", "maka"],
    ["mandaic", "mand"],
    ["manichaean", "mani"],
    ["marchen", "marc"],
    ["medefaidrin", "medf"],
    ["mendekikakui", "mend"],
    ["meroiticcursive", "merc"],
    ["meroitichieroglyphs", "mero"],
    ["malayalam", "mlym"],
    ["modi"],
    ["mongolian", "mong"],
    ["mro", "mroo"],
    ["meeteimayek", "mtei"],
    ["multani", "mult"],
    ["myanmar", "mymr"],
    ["nagmundari", "nagm"],
    ["nandinagari", "nand"],
    ["oldnortharabian", "narb"],
    ["nabataean", "nbat"],
    ["newa"],
    ["nko", "nkoo"],
    ["nushu", "nshu"],
    ["ogham", "ogam"],
    ["olchiki", "olck"],
    ["oldturkic", "orkh"],
    ["oriya", "orya"],
    ["osage", "osge"],
    ["osmanya", "osma"],
    ["olduyghur", "ougr"],
    ["palmyrene", "palm"],
    ["paucinhau", "pauc"],
    ["oldpermic", "perm"],
    ["phagspa", "phag"],
    ["inscriptionalpahlavi", "phli"],
    ["psalterpahlavi", "phlp"],
    ["phoenician", "phnx"],
    ["miao", "plrd"],
    ["inscriptionalparthian", "prti"],
    ["rejang", "rjng"],
    ["hanifirohingya", "rohg"],
    ["runic", "runr"],
    ["samaritan", "samr"],
    ["oldsoutharabian", "sarb"],
    ["saurashtra", "saur"],
    ["signwriting", "sgnw"],
    ["shavian", "shaw"],
    ["sharada", "shrd"],
    ["siddham", "sidd"],
    ["khudawadi", "sind"],
    ["sinhala", "sinh"],
    ["sogdian", "sogd"],
    ["oldsogdian", "sogo"],
    ["sorasompeng", "sora"],
    ["soyombo", "soyo"],
    ["sundanese", "sund"],
    ["sylotinagri", "sylo"],
    ["syriac", "syrc"],
    ["tagbanwa", "tagb"],
    ["takri", "takr"],
    ["taile", "tale"],
    ["newtailue", "talu"],
    ["tamil", "taml"],
    ["tangut", "tang"],
    ["taiviet", "tavt"],
    ["telugu", "telu"],
    ["tifinagh", "tfng"],
    ["tagalog", "tglg"],
    ["thaana", "thaa"],
    ["thai"],
    ["tibetan", "tibt"],
    ["tirhuta", "tirh"],
    ["tangsa", "tnsa"],
    ["toto"],
    ["ugaritic", "ugar"],
    ["vai", "vaii"],
    ["vithkuqi", "vith"],
    ["warangciti", "wara"],
    ["wancho", "wcho"],
    ["oldpersian", "xpeo"],
    ["cuneiform", "xsux"],
    ["yezidi", "yezi"],
    ["yi", "yiii"],
    ["zanabazarsquare", "zanb"],
    ["inherited", "zinh", "qaai"],
    ["common", "zyyy"]]

def named? (name : String) : Option Nat :=
  (names.findIdx? (·.contains name)).map (· + 1)

def table : Runs := .ofString
  "C1F3qC66F3qC6BfF31C6fF31C65F3nC61F3vC61F3O1C6B7F35C65F32ekF3DgF24Bc1F33Bc204Bc1F31Bc401Bc1F3
  1Bc1F33Bc101Bc10kBc10BvBcepgBcE5s2F2F9s10B6620Bi6203610BnBj80rBj406Bjb0541F3641F3e41F3341F3B
  041F3a4bF2q41F2Dc41F3B24eE710BsE7203E7Bg4BiEie0BrD3203D3BeDo20fDo10sCg201Cg10bE750v4102460Ca
  41F3t4Cht4F2ft2F3qt4c108c202c20mc107c101c304c209c202c204c801c402c105c20pc203Be106Be402Be20mB
  e107Be102Be102Be102Be201Be105Be402Be203Be301Be704Be101Be70hBea03Bd109Bd103Bd10mBd107Bd102Bd1
  05Bd20aBd103Bd103Bd201Bdf04Bd20cBd707Bd103D8108D8202D820mD8107D8102D8105D8209D8202D8203D8703
  D8402D8105D820iD8a02Ec106Ec303Ec104Ec302Ec101Ec102Ec302Ec303Ec30cEc405Ec303Ec104Ec201Ec601Ec
  e0lEc50dEf103Ef10nEf10gEf209Ef103Ef104Ef702Ef103Ef201Ef204Ef20aEf709EfdC2103C210nC210aC2105C
  2209C2103C2104C2702C2602C2104C220aC2103C2c0dCn103Cn10BjCn103Cn106Cn40gCn20qCn103E010iE030oE0
  109E0101E0207E0301E0406E0101E0108E060aE0203E0c0BqEj401F3sEjB502C5101C5105C510oC5101C510nC520
  5C5101C5107C510aC5204C5B00C8Ek10B4Ek40B7Ek10B4Ek10fEk107Ek4F32EkB50F0CtB6B6101B6501B620BbB61
  F34B6I0BfC9B5104B5207B5101B5104B520B9B5104B520B1B5104B5207B5101B5104B520fB510BpB5104B520C3B5
  20B0B530qB560Cmn206n20U0ktD530CbDn3F3bDn70mEh901EhlBh2F390kic0dE8103E8102E8c0CuBv20aBv60aBv6
  02Cp2F31Cp1F3kCp60CpCp70BbCp50C6ka0vC810cC840cC8401C830cC8uEa205Eab0BcEb40qEb60bEb302EbB0Bvs
  h202hBvC410tC420bC460aC460eC420vF2Bh0Cd830Bf810C0E5Bkb804bBoC730fC7303C7BgD69s70BbB6203B68E5
  803F21F3dF21F37F24F31F26F31F23F32F21F350B6C65Bc1sBhC65Bc4C65BcdC61sC6C61BcC0F2I0C6mBc206Bc20
  B6Bc206Bc208Bc101Bc101Bc101Bc10vBc20BlBc10fBc10eBc206Bc10jBc203Bc109Bc10cF32F2CnF310bF31C620
  bF31C6fF310dC630B1F3f0B1F2f0B6F31Bc3F32C66F31C6rF31C6hF3B9C63F340UnF3p0bF3l0z0F3I0gTkF320B0F
  310D9F3D0B7B0C6Dkp507pB6B6101B6501B620BoEg702Ege01EgnB5907B5107B5107B5107B5107B5107B5107B510
  7B510B0sCuF3B20qBg10CpBgc0GmBgq0cF3405F31Bg1F31BgpF39Bg4F22Bf8F34Bg4F310CmBk202F22F33Bk1F3Cq
  Bs2F33Bs50Bbe10CuBf10gF3B0eB4F3c0gBsvBf10C0F3vBfChF3BfBs1F3CoBsF8F3GO0BgC0F3UQ0BgBEdF030BnF0
  90BgCbJcEpk0D0sCo980B2F3D6C63F3C0C6502C6101C6105C6o0eC6BdE630aF360BoDf80C6Dq80cDq60B0tBeBr1F
  31BrB4Dlb01DltBf30CeBq101F3aBq402BqvCt10Bnm90em20am204mB0CtC3Eeo05EenCra06B5206B5206B5907B51
  07B510BbC61F39C61Bc4C62F340CgnBeCr20aCr60Kz4Bfc0nBf40BhBfII40LeBg20DaBgB607C6c05650qBj105Bj1
  01Bj102Bj102Bj10aBjDj4g0Lb42F3Cg420Bm47014B00g4gF2aF360eF22sB3F310jF3104F3405410E74201F310B0
  F3qC66F3qC6bF3aBs1F3BdBs2F3vBf306Bf206Bf206Bf203Bf307F3107F3a05F320cCa10qCa10jCa102Ca10fCa20
  eCaB20DrCa503F340BdF3309F3CfBc10dF3301BcBf0BdF31F2E20tCc30Bhlf01F2rF340B4Bp903BprBa50BbDe50u
  Eo101EoB4Et40eEtBa0CgB0BgDsuDa20aDa60B4D940B4D940B8B380Bk2b012bEq10fEq107Eq102Eq10bEq10fEq10
  7Eq102EqC30JnC990mC9a08C9o06C610BaC6109C6C506r201r10Bcr102r301r201rm51095B0DcvD1809D1Bg0jBi1
  02Bi505BisDi301DiqCd501CdC00B0CmoCl40kCl20BeCl4Bu102Bu508Bu103Bu10tBu203Bu40aBu709Bu70B0DpB0
  D0B00B7Ch40cCh90Bm73077mDk208DkjDg508DgiDh704Dhc07DhCg0C9D7Bn0BjBod0BjBo706BoB8Dm80aDmJ60v41
  0BaEv103Ev202EvCb034B8E280BaE1m0qDbB60sok0nB490Cef40B4f901fC3C3a01C320pE370aE360Blj10ij80B7C
  e90D0Dt10kE0b0iC010BfC0Bu07Cs101Cs104Cs10fCs10bCs60BrDv50aDv604Bb108Bb202Bb20mBb107Bb102Bb10
  5Bb101F29Bb202Bb203Bb201Bb601Bb507Bb207Bb305BbEb0CsD2105D2u0C8El80aElF60BmDu20B6DuB20C5Cob0a
  Co60dCpj0BqE960aE9Bm0r320f340n3Fp0BsvD40CjErc01Er7u201u208u102u10uu102u20cu90auC608Cv20BeCv2
  0bCvr0C8F180CjE4d0gkBpDd70atHm09d10Bdd10eda0td30B0Ci20mCi10eCiC907B9102B910BcB9301B9102B9109
  B980aB9606B8102B810B5B8102B8106B870aB8Jm0pCf70hBt10B9Bt30sBtCm01Cbf0BiEcd01EcyqEuD60DfEu105E
  ub0G4EuCSc0D3qd0BCmB2Dza0S7BlINp0Rp970vCq10aCq402CqCfEm10aEm60ua206aa0C6Bma0aBm107Bm10lBm50j
  BmVg0CrCjD50CbDj40BpDj70hDjC001Ed1D42Bg1C1b02Bge0F-oEd80Y0EdOmC1Ba09EdIX704Bs107Bs102Bs101Bs
  IvBk3Bsf01Bkt03Bk201Bse04Bs80McD4CI40DbB150dB1309B170aB1204B14F3ESs0BeF220nF290DkF3Bs0HmF3a0
  B7F320BuF33F2hF38F22F37F2uF34F2BtF3l0C6BcDq0kF3c0kF3c0CnF390pF3E70ClF310C7F3102F3201F3202F32
  04F310cF3101F3107F310C1F3104F3208F3107F310sF3104F3105F3101F3307F310KkF320J4F320BiF3UcDrf05Dr
  10fDrBCg0vC6606C6Gl07B710hB7207B7102B7105B750BusB101sDg0BdBn30eBn20aBn402BnK00vEnh0BqEs501Es
  Og0BaCuX607B5104B5102B510fB510G5Ck20gCkB90Cc140a14021Yh0C4F3Cc0BtF3G204410r410241014201410a4
  104410141014601440141014101410341024101420141014101410141014102410142044107410441044101410a4
  10h45034105410h4Bk024Ie0BcF340D4F3c0fF320fF310fF310B5F3a0FeF3Bo0qF31Bk2F3d0BcF3409F3702F3e06
  F3Eq0+oF340hF330dF330DnF340CvF360cF3401F3f0cF340BoF380aF360B8F380uF3202F3Ce0KkF3c0eF320dF330
  9F370BeF3107F380eF3409F3709F370EjF310BnF3B50aF3BA60BJX0BgB00EBqBg60GuBg20FU2Bge0HJhBgDAv0QuB
  gBP20EwbBg50ED0BgVXCh01F3u0D0F3E00HgF2F-Qg0"

def holds (script : Nat) (c : Char) : Bool := table.value? c.toNat == some script

/-- The lists of script numbers that characters used by several scripts have. -/
def sharedLists : List (List Nat) :=
  [[],
    [44], [70], [28, 110], [28, 39], [28, 70], [4, 118, 99, 135, 146, 159], [4, 135, 146],
    [1, 4, 118, 99, 135, 146, 159], [1, 4, 118, 80, 81, 107, 113, 129, 135], [4, 135],
    [4, 146, 159], [4, 118], [12, 29, 43, 45, 46, 66, 70, 87, 104, 125, 140, 143, 149],
    [12, 29, 43, 45, 46, 66, 70, 87, 104, 140, 143, 149],
    [12, 29, 31, 43, 45, 40, 46, 66, 127, 78, 87, 41, 95, 104, 128, 134, 137, 140, 143, 149],
    [12, 29, 31, 43, 45, 40, 46, 66, 127, 72, 78, 87, 41, 95, 104, 128, 134, 137, 140, 143, 149],
    [29, 31, 67, 78], [12, 19, 134], [46, 92], [45, 64], [43, 140], [66, 95], [19, 93, 138],
    [38, 70], [18, 49, 145, 136], [89, 111], [12, 29, 43, 66], [29], [29, 43], [12, 29],
    [29, 125], [29, 66, 87, 104, 140, 143], [29, 95], [12, 29, 43, 66, 95, 104, 143, 149],
    [29, 43, 66], [12], [95], [28, 135], [135], [70, 89], [29, 43, 70],
    [14, 48, 47, 52, 60, 160], [14, 48, 47, 52, 60], [48], [14, 48], [52, 60], [48, 52, 60],
    [48, 70], [29, 31, 45, 46, 67, 66, 64, 127, 78, 87, 88, 95, 137, 149],
    [29, 31, 45, 46, 67, 66, 64, 127, 78, 88, 95, 137, 149],
    [29, 31, 45, 46, 67, 64, 127, 78, 88, 137, 149], [29, 140], [59, 70, 93], [17, 58],
    [4, 99], [4, 146], [27, 26, 74], [27, 74], [27, 73, 74], [4, 25], [81, 107], [33]]

/-- For every code point the place of its list in `sharedLists`; zero where its script says all. -/
def sharedTable : Runs := .ofString
  "w20112011t0d2Ij013142514M4016e016172018B0019a0baa0ab601aD301cTs01d1eh01f1gahDm0aiDm0ajDm0akH
  m0elHi0amwg0anFh01oBRp02pGb02q101qBGa01r1s1r1t1s2u1v1u1v1B01s2v2s1v1u7s1B11u2s1u4s1B21t1B32u
  1B42t1B5G5021Bm01B6101B7Rk01B8G001B9DKi014Nt02Ba1Bb201Bc10aBa101Bb8Ba4Bba04Bd201Bb5Be101Bb40
  2Bf2BcCp04Be301BeCq01Ba1BeEj0gBcB00B4BcBs0B8BcBo0BhBcf0cBcBj01BcCo0pBca05BcD00vBcyTg014Eg08B
  gJ803Bh3Bi4BjFn01u101BkBq01BlF001BmUxe02BnFi01Boa01BoC702BbIq05Baa01BeBd02BeL002Bp1Bq40BdBr3
  09BqN00sBsB-m01BtCAe01l101lBn02lDEj02l101lBHGc04BuFVs0iBcHWu02Bc+DNe0"

def extensionHolds (script : Nat) (c : Char) : Bool :=
  match sharedTable.value? c.toNat with
  | some (k + 1) => (sharedLists.getD (k + 1) []).contains script
  | _ => holds script c

end AppLinks.Unicode.Script
