import AppLinks.Unicode.Category

/-!
Properties that a character has or has not, and the version in which a character was assigned.
-/

namespace AppLinks.Unicode.Property

def alphabetic : Runs := .setOfString
  "C1q6qBf1a1415n1v1Oa4ce57111Cm1Ba51224116113111k1Cj1Eb8F61B6216B9B7e111212118r44tb5Bo17eD6184
  843a321gBgdD5oB192415o2jjp7b5o16hBaac376Cc1g134fdj18222m17113438222211814215c2a14316422m1712
  1212454222417411h6b319131m17121539131231f4l44318222m171215382222924215d1g216331432111232333c
  4533133161B8d131n1g38131382132124s418131n1a15381313826214d3cd131B9281313115475m6131i3o191127
  861118i2dBq5761Bj211151o111j13251161e4B01Bv81B44j4g1B4C3Bn1125gC0a42B611512Bb1Kd142711142B91
  42B1142711142f1Bp142C3B5ggCm263Tc2h1q5Cb3b7kblckcd1312cBk2je141C3Cp7Bb5C6av1c49nu25bBc4qBms4
  Bv2kBi1n2b3BhBk1f18BjBa24aBc1beBnm3aB4297Bb23B941612315G0B7ebIm262B626281111111v2Bl171133173
  4264d5317Dk1d1gdD51412a1135611111141b245541hB9ZdBkBYmH56432cB611512Bo71gn97171717171717171B0
  Bf1Ol3p975254Cm631Cq145Bb1CuhB0BggQ0GO0C0VUdC3Be2Id3ga2kBf583DhB792D72C0521115ok1B1oBkcC411B
  c63113aB15B3dt3Bj1cf1gga51Bn9ein3C51111o32g24b6262697171Bb1e6DrlKz4cn4BhII4Le2DaB67c55c1d151
  112121DcB1LbiC02BmB8cDk51E7B4q6qbCp36262623B3c1q1j121f2eB2DrC5BlIbt3BhBfB0du5Bb5u2B44815BaEu
  iB44B44B88Bkcb1f17121b1f1712C3Jn9ma8o61Ba19C56211Bc12312nan9vC1j12amaqC6Bo62C041258131tBat3t
  B381srBmamajdiDeC9BnBjdBjdB8KoBa1232Ceta18mBaiBelrn9C6Bb5aBp91dpnBjh48B3319C01492a111B3i1B22
  164Bu711141f1a7Bpn418222m171215382222316157EsC21314k3uC22211FoBm27p6B2Bv1131BrBm21C7r2el7FpB
  pD7C0v82128121u122224Ct82Be261112rBj2ahC851iC9I791Bd1711Bhu2m1eC97121Bc3112131122o6121B51214
  11K7n9h1B933Df1CfyqD6DfhG4CScD1fBBgh6DzpS7INpRp7vhCfhuiBgg4vl5jVgC0E0Cb4Bp7hC0211c2eF-o8BGmB
  a9IX7417121J3f1t321e48McCI4Db5d397a41Fx1Cl1C7122122241c11171C11428171s141511371Kk2p1p1v1p1v1
  p1v1p1v1p18BZkv66Gl71h2712155BuB11DgBda7g1K1uiBcP4sXk714121f1G5BrC43131BFk41r1211211a1411116
  14111111312112111111111121124171414111a1h53151hTkq6q6qDTmBJX0B0EBq6Gu2FU2eHJhDAvQuBP2Ewb5ED0"

def whiteSpace : Runs := .setOfString
  "95i1D41q1FOv1CLvbt251Bf1Dz01"

def graphemeExtend : Runs := .setOfString
  "Y0DgIj7I7Bd11121211C8bBglg1D57262214B31urCrbBq991o4191315Bb3Bs8Bao1B0Bn111484137a2t1Bq111248
  191a2q122Bp142422331u231b2Bp1451241k2m611Bq112148173a2u1Br111c191B8131Bn113531472b2t1Bq12121
  315272b2s2Bp211248191a2t1C8141231181Ch127c8D2129b7C92r11111Bne15125b1B491D64161222p243g4d122
  61f1Vv3zi3t2u2u2C0217812b91Bd311Dl2B21Dm3429163Gr221Bq1171111286a21BgvBh4Bg71151B89c2B042213
  Bo1123113Bq822Eo31d17416132G6C0Qc1G3B1C-u3Ed1D0B0Ra6D92zOk41aB02Cg2Ig13141p251En2qid1B68pbBe
  3Bg12422B71C362222c181Bf1Bj113225211Ba281He12141TZg1X1gggLe2St1H21El5BU631254B8341F52Rt4M32C
  g3C6bBh4Dr1BmfB9122a3Bh42271Bt3B4518Bu1c2Bk9a421Cv321126121Et138l2Bp21111m1e735G382311n1Ch12
  611211212Hb1246212r2Cl82112Da1112611D532415I3912Hl1a21141Eg42241B0aB8624819623Bed12Mm71611Ci
  m271212Dq631121711C823111Kr2b2Bk55111FHt16fNUq5Br7BAo1Bv4Ch1TFo2ET1Be2nQu113458827u4Ek3BzrBn
  4Bi81e1m51fBKg71h271215D41F07Ln1Bt4Ps4-07Dd7YFWlD0E0Hg"

def joinControl : Runs := .setOfString
  "IAc2"

def lowercase : Runs := .setOfString
  "D1qBf1a141B4o1811111111111111111111111111111111111111111111111111111112111111111111111211111
  11111111111111111111111111111111111111111211113211121324121332121111121121121311122236121211
  11111111111111211111111111111111221113111111111111111111111111111111111111111111111111111111
  11117212211411111111C51B472u5D01Bb1113124i1rB31233111111111111111111111115112122BjBg11111111
  11111111111111111111111111911111111111111111111111111111111111111111111111111111211111111111
  12111111111111111111111111111111111111111111111111111111111111111111111111111111111111111111
  111111BgB9Cw7Bb14Xo6CE29DnG0C111111111111111111111111111111111111111111111111111111111111111
  11111111111111111111111111111111111111111111111111111111111111111111111111111111111111911111
  11111111111111111111111111111111111111111111111111111111111111111111111111111111111111111111
  986a88886a8888e2888888512613312842288a312Dp1d1gdDd13231r14141228441B1g41wbqBw6Bg113211111141
  12183111111111111111111111111111111111111111111111111111111111111111111111111111111111111111
  111111111112711141cB61151+Ij111111111111111111111111111111111111111111111j111111111111111111
  111111113E511111111111131111111111111111111111111111111111111111111111111111111111111a111121
  11111111411121131111111111111111111151511111111111111141116111111111o31113ZlBb1e6CgTw07c5BB9
  qBGdB8E8B4Erb1f1712O31231Ba19BI5BjC+dB0VM0B0ZMqqq71iqqq411171bqqqqqqqqqqqqqqqqqssp16qp16qp16
  qp16qp1611BZka1k66I5BuCFkB2"

def uppercase : Runs := .setOfString
  "C1qD5n17B11111111111111111111111111111111111111111111111111111111211111111111111121111111111
  11111111111111111111111111111111111121111321112132412133212111112112112131112317121212111111
  11111111121111111111111111121211311111111111111111111111111111111111111111111111111111111117
  212211411111111J11113181611311121h19B31233111111111111111111111115121122BjBg1111111111111111
  11111111111111111911111111111111111111111111111111111111111111111111111121111111111112111111
  111111111111111111111111111111111111111111111111111111111111111111111111111111111111111112B6
  Cw9B61151WiCmCEqBb23K01111111111111111111111111111111111111111111111111111111111111111111111
  11111111111111111111111111111111111111111111111111111111111111111111111111111119111111111111
  11111111111111111111111111111111111111111111111111111111111111111111111111111111111119886a88
  886b111111188C84c4c4c5b4I6141332321356111111424a251qgj1ZiqBZgBgBg113211111141121831111111111
  11111111111111111111111111111111111111111111111111111111111111111111111111111111111111118111
  41+Kd111111111111111111111111111111111111111111111j111111111111111111111111111E7111111111111
  131111111111111111111111111111111111111111111111111111111111111a1111211111111411121113111111
  11111111111111515111111111111111411615111s1VZbqBG5B8E8B4Esb1f1712BXaBjC-dB0VM0B0ZN0qqqqqq112
  21222418qqq2142817r214151137rqqqqqqqqqqqupB1pB1pB1pB1pB11EJlB2CAeq6q6q"

/-- The other properties, each with its names in lower case and without separators. -/
def others : List (List String × Runs) :=
  [(["asciihexdigit", "ahex"], .setOfString
    "Bga76q6"),
   (["bidicontrol", "bidic"], .setOfString
    "BQs1GPh2q5Bn4"),
   (["bidimirrored", "bidim"], .setOfString
    "B82i111s111t111Bd1f1DTu4Bwt2CMs2a2Bm2e2Fh1G043631323414111149511i549211182v2451922j5295224o2
    g84k272BBteCa124121354533eMjm261e817631451225411322a622cj14211121145263o2b24412224Bb281B8511
    13553413511I01Q343212e22aBb8Nba28BTRt652F22i111s111t1111212BVxn1Bp1Bp1Bp1Bp1"),
   (["caseignorable", "ci"], .setOfString
    "B7161b1B3111C7141114122PnG042419211Hr7Gf151BhBd11121211Bc1b6ab11B31alg1D581a14B1111urCrbBqb4
    121ooBb3Bc17268B9BqBn111484137a2d1f1Bq14481k2q122Bp142422331u231b2Bp1451241k2m611Bq121148172
    b2u1Bt1c1Bi131Bn113531472b2t1Bq1216152k2s2Bp24481k2t1C817311Cq127b9D21299117C92r11111Bne1512
    5b1B491D64161222p243g4d12261f1Cu1T03zi3t2u2u2C0217812b3151Bd5Bj1C12B21Dm3429163Gr221Bq117111
    1286a21B718vBh4Bg1151151B89c2B042213Bo1123113Bq822C06Ci31d17416132BiBvd1B2D5Nt113b3d3d3d2c58
    2a12125Bh51a11d1gdBjB1Cyb2Dh3Dt1f1D0B0Bf1Ol1B443551Ct6Ct3xYm1BH26Ie1D241a11s4Cg2eB2Ce1n3D733
    2813141p251En2qid1B68pbBe3Bg12422h1l2C262222c181B31b1Bj113225211r1e25211D4593Dp12141TZg1EjhR
    tg31cgB2121F917161b1B3111Bf1Bd2C31l3Q11H21El5BA561Ba19S631254B8341F52Rt4M32Cg3C6bBh4Dr1BmfB9
    122a3Bh4222141a1Bi3B4518Bu1c2Bk9a421Cv321126121Et138l2Bp231B5735G382311n1Ck6114212He46212r2C
    l82112Da1112611D532415I3912I021141Eg42241B0aB8624819623Bed12Mm71611Cim271212Dq631121711C8231
    11Kr2b2Bk55111FHdh6fNUq5Br794BAb1BvhC0212QAb41712DEu214ESsBe2nR039g27u4Ek3BzrBn4Bi81e1m51fBK
    g71h2712155BuB11F0eLg1Bt4Pr5-07Dd8CVf5YDA11uD0E0Hg"),
   (["cased"], .setOfString
    "C1q6qBf1a1415n1v1G3144Gg1B472u5D01Ba42224116113111k1Cj1Eb8F61B69B9CYnB611512Bb14V0Cm26CE297B
    b23C0G0C0Im262B626281111111v2Bl1711331734264d5317Dk1d1gdD51412a1135611111141641245541hB032Zh
    BkBYmH56432cB61151+IiBeiuE4D6341Br521115o513ZlBb1e6CgTw07c5BA9q6qBF5CgD0B44B4Dkb1f17121b1f17
    12O31231Ba19BG5BjdBjCzdC0VL0C0ZM0Cl1C7122122241c11171C11428171s141511371Kk2p1p1v1p1v1p1v1p1v
    1p18BZka1k66I5BuCEiC4B-cq6q6q"),
   (["changeswhencasefolded", "cwcf"], .setOfString
    "C1qCq1an18B011111111111111111111111111111111111111111111111111111112111111111111111121111111
    11111111111111111111111111111111111111211111112111213241213321211111211211213111231721212111
    11111111111112111111111111111112211131111111111111111111111111111111111111111111111111111111
    1117212211411111111Hm1Ba1113181611311121h19m1c332111111111111111111111111122211122BjBg111111
    11111111111111111111111111191111111111111111111111111111111111111111111111111111112111111111
    11121111111111111111111111111111111111111111111111111111111111111111111111111111111111111111
    11111112B6Bg1CYoB61151Za6CE297Bb23K011111111111111111111111111111111111111111111111111111111
    11111111111111111111111111111111111111111111111111111111111111111111111111111111111111111111
    15221111111111111111111111111111111111111111111111111111111111111111111111111111111111111111
    1111111119886a88886b111111188gBg23265326b4c55326J913261Bdgj1ZiqBZgBgBg1132111111411218311111
    11111111111111111111111111111111111111111111111111111111111111111111111111111111111111111111
    1811141+Kd111111111111111111111111111111111111111111111j111111111111111111111111111E71111111
    11111131111111111111111111111111111111111111111111111111111111111111a11112111111114111211131
    1111111111111111111515111111111111111411615111s1xqCgTw07c5BA9qBG5B8E8B4Esb1f1712BXaBjC-dB0VM
    0B0+V0B2"),
   (["changeswhencasemapped", "cwcm"], .setOfString
    "C1q6qBq1an1v1C01Ck1d1e2e22114Ct1i6r121112321112152112217121123651a2F61Ba42233116113111k1Bf3B
    1151E58F61B6aB7CYoB611512Bb23V0Cm26CE297Bb23Fp131g1DhEs211Dm262B626281111111v2Bl171133173426
    4d5317J913261r1hB032ZhBkBYmDh12127D67432cB61151+IiBeisE6e2Bu9f33251p1r5244r2ws1sCgTw07c5BA9q
    6qBF5CgD0B44B4Dkb1f17121b1f1712BW3BjdBjCzdC0VL0C0+U0C4"),
   (["changeswhenlowercased", "cwl"], .setOfString
    "C1qD5n17B11111111111111111111111111111111111111111111111111111111211111111111111121111111111
    11111111111111111111111111111111111121111321112132412133212111112112112131112317212121111111
    11111111121111111111111111122111311111111111111111111111111111111111111111111111111111111117
    212211411111111J11113181611311121h19B318111111111111111111111115121122BjBg111111111111111111
    11111111111111191111111111111111111111111111111111111111111111111111112111111111111211111111
    1111111111111111111111111111111111111111111111111111111111111111111111111111111111111112B6Cw
    9B61151WiCmCEqBb23K0111111111111111111111111111111111111111111111111111111111111111111111111
    11111111111111111111111111111111111111111111111111111111111111111111111111111911111111111111
    111111111111111111111111111111111111111111111111111111111111111111111111111111111119886a8888
    6b111111188o8888885b5b4c5b5J913261Bdgj1ZiqBZgBgBg1132111111411218311111111111111111111111111
    111111111111111111111111111111111111111111111111111111111111111111111111811141+Kd11111111111
    1111111111111111111111111111111111j111111111111111111111111111E71111111111111311111111111111
    11111111111111111111111111111111111111111111111a11112111111114111211131111111111111111111151
    5111111111111111411615111s1VZbqBG5B8E8B4Esb1f1712BXaBjC-dB0VM0B0+V0B2"),
   (["changeswhentitlecased", "cwt"], .setOfString
    "D1qBq1B9o18111111111111111111111111111111111111111111111111111111112111111111111112111111111
    11111111111111111111111111111111111112111132111213151213231211111214121311121311141121211111
    11111111111121111111111111111131111311111111111111111111111111111111111111131111111111111111
    18122114111111116121112321112152112217121123651a2F61Bb1113133i1rB312331111111111111111111111
    15112121BkBg11111111111111111111111111111111119111111111111111111111111111111111111111111111
    11111111211111111111121111111111111111111111111111111111111111111111111111111111111111111111
    11111111111111111111111111BhB7DTg6CE29Hg131g1Di111111111111111111111111111111111111111111111
    11111111111111111111111111111111111111111111111111111111111111111111111111111111111111111111
    11111111111751111111111111111111111111111111111111111111111111111111111111111111111111111111
    111111111111111986a88886a8888e2888888512613312842288a312Km1B1g41wbqBw6Bg11321111116121a11111
    11111111111111111111111111111111111111111111111111111111111111111111111111111111111111111111
    11811141cB61151+Ij111111111111111111111111111111111111111111111j111111111111111111111111111E
    7111111111111131111111111111111111111111111111111111111111111111111111111111a111211111111141
    411221111111111111111111b1111111111111114111615111s1ws1sCgTw07c5BB9qBGdB8E8B4Erb1f1712BY3BjC
    +dB0VM0B0+V2B2"),
   (["changeswhenuppercased", "cwu"], .setOfString
    "D1qBq1B9o18111111111111111111111111111111111111111111111111111111112111111111111112111111111
    11111111111111111111111111111111111112111132111213151213231211111214121311121311152121211111
    11111111112111111111111111112121131111111111111111111111111111111111111113111111111111111118
    122114111111116121112321112152112217121123651a2F61Bb1113133i1rB31233111111111111111111111115
    112121BkBg1111111111111111111111111111111111911111111111111111111111111111111111111111111111
    11111121111111111112111111111111111111111111111111111111111111111111111111111111111111111111
    111111111111111111111111BhB7Cw8Bb23Xo6CE29Hg131g1Di11111111111111111111111111111111111111111
    11111111111111111111111111111111111111111111111111111111111111111111111111111111111111111111
    11111111111111175111111111111111111111111111111111111111111111111111111111111111111111111111
    1111111111111111111986a88886a8888e2Bl124111331241342288a31241Kh1B1g41wbqBw6Bg11321111116121a
    11111111111111111111111111111111111111111111111111111111111111111111111111111111111111111111
    1111111811141cB61151+Ij111111111111111111111111111111111111111111111j11111111111111111111111
    1111E7111111111111131111111111111111111111111111111111111111111111111111111111111a1112111111
    11141411221111111111111111111b1111111111111114111615111s1ws1sCgTw07c5BB9qBGdB8E8B4Erb1f1712B
    Y3BjC+dB0VM0B0+V2B2"),
   (["dash"], .setOfString
    "Bd1BKs1Bj1DS11BA51CA96Bt1B71f1M61DA4121v241s1Nu1j1Df1BTMg2B51a1F91Dyv1"),
   (["defaultignorablecodepoint", "di"], .setOfString
    "Fd1V11Wc1Cw22BSj2Cl5B-r5q5BhgEHk1BTErgHf1F01Cf9BPF74FGf8YLU5EA0"),
   (["deprecated", "dep"], .setOfString
    "K91BJ91CI3111CB92CG56Vp2xXGm1"),
   (["diacritic", "dia"], .setOfString
    "Cu111C71614122PnEv1856h24192Ht5Gh1Bnh1r111211E6842E624233C3rCrbBqbB22Du8B9agsBt1g134s1Ca1g1D
    e1g1De1g1Bf3Bs1g171Dn1De1g1De1g1Dd2g1Ds1Ds611Db1d5Cb2r1111142C2312Bu1Dg112B8245p711a2W13zk2F
    jb91Kr3Jp821Bgf2bD81f1B69Bm2Ea2C06Cip416123BiBvCpcB5bNt113b3d3d3d2DHg3Jt1Pq6D94Cv1zLi1c211s2
    Ci2eB2D63Dd2Ga1riBp4B41Cv1c1B41El3C14Bj1D4593E02TZg1Y1gIe111Bf1Bd2C31Xs1BEv61Ba19Za2Rr6Ol3C6
    bBh4G01B91C82Do2Bu1Cc193D82Fi2Ch1g1o735Gd131Dr2Hr2Du1Dm2Dj1Id2I2241Es1Cj1i1Ch1N51I2112Ch1FVf
    fNUq5Br7BCohCg2P-u41712HY1Be2nR03368827u4DU2BuG27Ln1Bt4BP07Dd313"),
   (["emoji"], .setOfString
    "B31615aDf141Hyd1c1Go1m1Cq6f2Lf2c1F61pb43G71H72a191Bq415912122214121122131328351115cb2211211i
    122i6111232512242b25221521112k256142141212611211111613161a2f12141114311b2Bg391e1e1Lk2Of3j2Bj
    141BGq1c1Sp111DPLa1Ga1F02c2e12aCbq12n1k129l2FeB22Dg22132Cj231I71Bvb61o7228c1242142d221829153
    c38321114161316CmBgC658234a3112312aH3c41IrBf1a1FpDgd397Be178e4979"),
   (["emojicomponent", "ecomp"], .setOfString
    "B31615aH+j1Gl1BXJb1By+mqPr5BNg4YBTcD0"),
   (["emojimodifier", "emod"], .setOfString
    "Dy-r5"),
   (["emojimodifierbase", "ebase"], .setOfString
    "JQt1Gr1g4DTDn1Bs32123Dl22blj3143137111o1G9241l142Fe335Cj1g391b1Rv12188619a23Bo1Bt21211h31dH5
    3Ba9"),
   (["emojipresentation", "epres"], .setOfString
    "IYq2Gd43121Q92l2BicBb1j1d182h2528151l1721141217142s1B31114311Bt3o1e1wr2Bj141DRFe1Ga1Fu12aCbq
    11o1k12513l2FeB1c91C61mcBb45ch313C7111Fr2Bvd41oi1q2d1CmClBgC661332344b279H3c41IrBf1a1FpDgd39
    7Be178e4979"),
   (["extendedpictographic", "extpict"], .setOfString
    "F9141Hyd1c1Go1m1Cq6f2Lf2c1Cv1C61pb43G71H72a191Bq4161c1DiaDm2b1111613161a2f12141114311b5Bd391
    e1e1Lk2Of3j2Bj141BGq1c1Sp111DPL6I0d3v1Bs6c2e12aiBprfa1k129149Ni5Ju8IaBgE0DkcClBbc4Bo8a6B88uC
    icBf1a1NpI0-u"),
   (["extender", "ext"], .setOfString
    "Fn1Qo2xe1Np1wq1Xg1Dv1CK31Bo1T31Me1C41Ey91Bb5D72Ct3xYm1BPm1+21m1E91Dc1l2VDr1CAg2C+q1T83BGf1UF
    92BEs211yKo2CA63"),
   (["graphemebase", "grbase"], .setOfString
    "B0CvB1d1SiDg82647111k1H07F61B62Bi23Be11121219r46hab11Belg1D58162214B0211utCpb1eBb973o4191317
    f1p511b5vhBaBpBn111484137a2t1218222m1711343112622211d2134o5116422m1712121243o4117a2311c11913
    1m17121534811231f24c718218222m17121531216222f2134ib116331432111232333c5112331331ll6318131n1g
    3134j321224a7a1b131n1a153212122212h2124a13eb131B92112531312431a4q221i3o19112792677a23cBg12b8
    8dB5211151o111a129125119a24B0o2r11111e1B4i15125Bh8161dB5Bd4161222p243g4d12261f1B811512Lp1427
    11142B9142B1142711142f1Bp142C35t3q6Cm262Ut3Cp7i319j239ied13fBk217812b93a6a6b5a6Cp752B2115C6a
    v44234216713Ba25bBc4q6b3Bp223Bo11911286da6a6eCmBg71151a3r9b3B042213Bo112311328Bg825f3Bs7Bb2b
    b1d1741613215G0C0Im262B626281111111v2Bl1f1e261j23191b5o7Bhg22r1d3B1BvEc4UnpblBYk2B01Ko325Bd1
    1512Bo72fn9717171717171717B1CuB2q1CpcGmqc4Ba6g1Cm4D55Bb1Cu1CkcBf1yTd3Bn9KskBf41aB02Cg268Gb52
    1115og13141p254a6Bo8C4acod1B68pb2bu6Bg12422g1b471p1B96222b318112a2B01Bj1132252111oh28b626269
    7171Bs4Dl12143a6Kz4cn4BhII4Le2DaB67c5511o151112121DtgNt2Bm71B0ggamB31j14451E74Et2v3626262337
    17d22c1q1j121f2eB2Dr534Bd3Co1d31BfBdE3t3Bhgr4B49u5B6au1B54eBaEu2a6B44B44B88Bkbc1f17121b1f171
    2C3Jn9ma8o61Ba19C56211Bc12312n1C889Bgj125B13r51C0Bo4k2Bff4131ta9797C0B0B56c9Bm3t2r5q74c7CgC9
    BnBjdBj7BacaJ6v1Ba3122CeB88mb9mi44B6skn911Bmf74u1221cBh422214ep7a9B4519i8B313bBk9a421g1kbi1s
    32112612Bv711141f1b6Bf13da8218222m171215311114222321c7EsBo82311l1113uBg1261121121248aF6Bf126
    4212rB4Bj821124ba6djBb111261126aBmr52419nFpBf9121D4Cjc82128121o15124114139aC682Ba8414r1aB862
    4891623Bed129dC97aHm91B6e116at3B0p17121Cb7121B6l19a66121B54211117aJmj249f1B482111nCm1fBidyrD
    6Df15bG4CScD3dBBgh6DzpS7INpRp7v1a4Ch1a6u71aBg7faa171l5jVgCrD5Cb5BobdC04c2eF-o8BGmBa9IX741712
    1J3f1t321e48McCI4Db5d397a2121EVgDkBsHmaB72Bs1134l27u4BtlC231DqkckcCn9pE7Cl1C7122122241c11171
    C11428171s141511371Kk2J42RiBn4Bi81e17BDkv66I5BuEiBda72a42K0uiBc4a51Ogs4aX6714121f1G529BgC471
    4a42YhC4CcBtG241r1211211a141111614111111312112111111111121124171414111a1h53151hBk2IeBc4D4cf2
    f1f1B5aFeBotdBc4972e6Eq+o4h3d3Dn4Cv6c41fc4Bo8a6B88u22CeKkce2d397Be178e49797Ej1BnB5aBA6BJX0B0
    EBq6Gu2FU2eHJhDAvQuBP2Ewb5ED0"),
   (["hexdigit", "hex"], .setOfString
    "Bga76q6B-V9a76q6"),
   (["hyphen"], .setOfString
    "Bd1Dv1BGs1ETr1CA92DQ51X31BTL71F91Cn1"),
   (["idsbinaryoperator", "idsb"], .setOfString
    "L-g228"),
   (["idstrinaryoperator", "idst"], .setOfString
    "L-i2"),
   (["idcontinue", "idc"], .setOfString
    "Bga7q411qBf1a111215n1v1Oa4ce57111hDl12241165111k1Cj1Eb152F61B6216B98Bd111212118r44tb5Ca4D618
    2a1j21gBr2D5eBm41212Beis4b5o169Ca1E12a1j18222m1711342922248142152ca1112316422m17121212211542
    233174117gb319131m1712152a131321f42a971318222m1712152922237342152a11g216331432111232333c4533
    142161eagd131n1g291314721321242ag418131n1a152913147262142a13cd131Bj131554752aa6131i3o1911273
    14611186a22dBq5f1aB7211151o111n2511171a24B01n26ab111114a1B44k1i1B491BpCa6Ce2B611512Bb1Kd1427
    11142B9142B1142711142f1Bp142C32399eggCm263Tc2h1q5Cb3b7m9mbkcd1312cCk31422aB131b6Cp7Bb5C6av1c
    4caB825bBc4q6bB5s4Bv1t2b6ad18e1gBhCd3ah9cDkcBo8a3Bh297Bb23g31B75Qm262B626281111111v2Bl171133
    1734264d5317C22j1s1d1gdBjd413ch1412a11266111111g245541hB9CTnH569cB611512Bo71fo97171717171717
    171B0Q53pf15254Cm271Cq145Bb1CuhB0BggQ0GO0C0VUdC3Be2Id3skBg4a1DjB592D72C0521115oBm41jBkcC6aa6
    o311Bh2B4ct3C1eb6v1Bn9e2a6n3C9o32g25a6262697171Bb1e6Dr122a6Kz4cn4BhII4Le2DaB67c55c1d15111212
    1DcB1LbiC02BmB8c4ggg32o3B051E7ja7q411qbCp36262623B3c1q1j121f2eB2DrC5BlE81E2t3Bhf1vB0du5Bb5u2
    B44815BaEu2a6B44B44B88Bkcb1f17121b1f1712C3Jn9ma8o61Ba19C56211Bc12312nan9vC1j12amaqC6Bo62C041
    258131t2341B0t3tB381upBmamajdiDeC9BnBjdBjdB88aK6Ba1232CbB0a18B1vmBalrn9C7vg9Bs71dp7a6Bl1a448
    B4219C5441d11B3i1B564Bu711141f1a7Br5a6418222m1712151a22232161572735EbCb5a44uC6118aF6Bm29n6B2
    C131baB6Bp7aBmr2f4a67FpBrD5Cal82128121u1229caC682Be2812rBv818Ca31iC9I791Bd19faou2m1eC97121Bc
    3112198a66121B512167aJmn9h1B935daCm1CfyqD6DfhG4CScD1fBBggmDzaS7INpRp7v1a6Cf1a6u25bBn94ca9l5j
    VgC0E0Cb4Bp7hC0212b2eF-o8BGmBa9IX7417121J3f1t321e48McCI4Db5d397a32ET1Be2nQu5368827u4Ek3NrCl1
    C7122122241c11171C11428171s141511371Kk2p1p1v1p1v1p1v1p1v1p182BiQ0Bn4Bi81e1m51fBCgv66Gl71h271
    2155BuB11DgBd3e2a41K1vhBqOmBaX6714121f1G5b7B9Cc4aBF641r1211211a14111161411111131211211111111
    1121124171414111a1h53151hDJkaBA6BJX0B0EBq6Gu2FU2eHJhDAvQuBP2Ewb5ED0VXKgHg"),
   (["idstart", "ids"], .setOfString
    "C1q6qBf1a1415n1v1Oa4ce57111E151224116113111k1Cj1Eb8F61B6216B9C7r44BdBbB321D311f272a321g11utC
    pb1oB192415m419131np7b5o16hBaBqBm31i17afg48222m17113431g1d213e2a186422m17121212v411j3g9131m1
    7121531i1f2n1b8222m17121531u213f1h116331432111232333cm1Bk8131n1g31q32122u148131n1a1531v212f2
    h9131B921g15383o65i3o191127BqBg12c7Bq211151o111a12912511l4B01Bv81B4r5DjBbk1g6443132734dc1hB6
    11512Bb1Kd142711142B9142B1142711142f1Bp142C3B5ggCm263Tc2h1q5Cb3b7idjeied13fBkB3141C3Cp7B9115
    C6avBhu25bBc4qBmn9BlCi1CtBfh8Bmud2aBcqB4B93aB4297Bb23B941612315G0C0Im262B626281111111v2Bl171
    1331734264d5317Dk1d1gdD51412a11266111111g245541hB9CTnH56432cB611512Bo71gn9717171717171717R63
    p975254Cm451Cq145Bb1CuhB0BggQ0GO0C0VUdC3Be2Id3ga2kBfgv2CgB792D72C0521115og13141ntBkeBiBu6311
    2bsanpt7Bfs1g51aa51B9n318kn313Bi1132252111o32b73c6262697171Bb1e6DjtKz4cn4BhII4Le2DaB67c5511a
    1d151112121DcB1LbiC02BmB8cDk51E7B4q6qbCp36262623B3c1q1j121f2eB2DrC5BlIbt3BhBfB0du5B6au2B4481
    5BaEuiB44B44B88Bkcb1f17121b1f1712C3Jn9ma8o61Ba19C56211Bc12312nan9vC1j12amaqC6Bo62C01f4131tBa
    t3tB381srBmamajdiDeC9BnBjdBjdB4KsBa62Ceta18mBaiBelrncBlBp221dBdB0pqB4t1218B331cBge4l111B3i1p
    j2Bv711141f1a7BfB68222m17121531i1c5EuBli4k3uBgk211FoBfB94B4Bgk1BrBbd1C7rB57FpBcDkC0v82128121
    of111Cu82B7g111s1aB871l1bBej1iC9I791B5h1BhuDg7121B6l1p6121B0e1K7jf11d1B2Ds1CfyqD6DfhG4CScD1f
    BBgh6DzpS7INpRp7vhCfhuiBgg4vl5jVgC0E0Cb51C2dC0211sF-o8BGmBa9IX7417121J3f1t321e48McCI4Db5d397
    aFx6Cl1C7122122241c11171C11428171s141511371Kk2p1p1v1p1v1p1v1p1v1p18BZkv66I5BuEiBda7g1K1uiBcP
    4sXk714121f1G5BrC471BFk41r1211211a141111614111111312112111111111121124171414111a1h53151hEK4B
    JX0B0EBq6Gu2FU2eHJhDAvQuBP2Ewb5ED0"),
   (["ideographic", "ideo"], .setOfString
    "MA62p9e3+5GO0C0UQ0WI0Le2DazIa1rF-o8BGmBa9JD7McTI4BJX0B0EBq6Gu2FU2eHJhDAvQuBP2Ewb5ED0"),
   (["logicalorderexception", "loe"], .setOfString
    "DS05Dr5CXg321BEHq22112"),
   (["math"], .setOfString
    "Bb1g3v1t111Bd141B51v1Wo321q223Qf3GQd1r3b131d1e4l5b5C1d413245i1412a112661322213163e11C4o16124
    24B01162eIc84k2Cq1ur11o1b7Nt2ca46422235e11126b852Bp111t493KgC0I0Q0Bgl26BT+s1Zn611F21g3t111t1
    11E3164BVAjCl1C7122122241c11171C11428171s141511371Kk2J42BiFQ041r1211211a14111161411111131211
    2111111111121124171414111a1h53151hBk2"),
   (["noncharactercodepoint", "nchar"], .setOfString
    "B-OgB0Qe2B--u2B--u2B--u2B--u2B--u2B--u2B--u2B--u2B--u2B--u2B--u2B--u2B--u2B--u2B--u2B--u2"),
   (["patternsyntax", "patsyn"], .setOfString
    "B1fa7q411q4B2711121112414131n1v1HYoo8f2j1aJhWgF0TmuBDcQ0E0M134pf1BTId2I52"),
   (["patternwhitespace", "patws"], .setOfString
    "95i1D41Hy82o2"),
   (["prependedconcatenationmark", "pcm"], .setOfString
    "BQ06Gn1Bh1M02Cg1CB+q1f1"),
   (["quotationmark", "qmark"], .setOfString
    "B2141E31f1Hws8p2DQ71O94d3BTR14Ft141Cq2"),
   (["radical"], .setOfString
    "LU0q1CpcGm"),
   (["regionalindicator", "ri"], .setOfString
    "DyP6q"),
   (["sentenceterminal", "sterm"], .setOfString
    "B11c1g1BK91Ej3Fk1Bb3Hm1Bt11132J52BX42Ym142Y51G62Gc151Jq2L24Fe222t2Fs2C12zs293DP41d1m2Nd1zHs1
    Ie2H3131Lu2Cm2Cv1Eo2Ej3Eg2Hp1UT6132F91c1g1C11CXk2BHt5Bc4Ft2Dl4Dv3E1261g2Co212Dc1N12Ll25fD92H
    p3Q5111Hr2Cn2N42Vk2Ca2SZ92E51C12b1wj1TQ61HP81"),
   (["softdotted", "sd"], .setOfString
    "D92G41Ip1u1Bk1k1K01D2111GI91Bj1d131E41Et1N51Gm2CZi1DJz52Bi2Bi2Bi2Bi2Bi2Bi2Bi2Bi2Bi2Bi2Bi2Bi2
    CE61Jh2q1"),
   (["terminalpunctuation", "term"], .setOfString
    "B11a111b231Zu181Q11Bp1C81e113Fk1Bbb11Hb2Bmfv1I52BHk2Fc146Jn2Yl8Y51Ds3C72Et331B7422Jq2L24Fe21
    3t2Fs5Bu2zs293DP41d141a11232Nc2zHr2Id3H35Lu2Cm2Cv1En3Ej3Dv1g2Hp1UT4314F91a111b231C1121BBq1Bg
    1BE61G71Jm2Eo6C46Cp4zo5Bc4Ft7Dg4Dv3E1261g2Co5Dc1N13c2L643fD92Hp3Q5111Hr2Cn242Mu3Bd1U52Ca2BJb
    5RPp2E51C13a1wi2TQ61HP74"),
   (["unifiedideograph", "uideo"], .setOfString
    "NA0GO0C0UQ0WQe21112a1111223CBOmBJX0B0EBq6Gu2FU2eHJhFAvEwb5ED0"),
   (["variationselector", "vs"], .setOfString
    "GAb311BZPggwAXgHg"),
   (["xidcontinue", "xidc"], .setOfString
    "Bga7q411qBf1a111215n1v1Oa4ce57111hDl12331165111k1Cj1Eb152F61B6216B98Bd111212118r44tb5Ca4D618
    2a1j21gBr2D5eBm41212Beis4b5o169Ca1E12a1j18222m1711342922248142152ca1112316422m17121212211542
    233174117gb319131m1712152a131321f42a971318222m1712152922237342152a11g216331432111232333c4533
    142161eagd131n1g291314721321242ag418131n1a152913147262142a13cd131Bj131554752aa6131i3o1911273
    14611186a22dBq5f1aB7211151o111n2511171a24B01n26ab111114a1B44k1i1B491BpCa6Ce2B611512Bb1Kd1427
    11142B9142B1142711142f1Bp142C32399eggCm263Tc2h1q5Cb3b7m9mbkcd1312cCk31422aB131b6Cp7Bb5C6av1c
    4caB825bBc4q6bB5s4Bv1t2b6ad18e1gBhCd3ah9cDkcBo8a3Bh297Bb23g31B75Qm262B626281111111v2Bl171133
    1734264d5317C22j1s1d1gdBjd413ch1412a11266111111g245541hB9CTnH569cB611512Bo71fo97171717171717
    171B0Q53pf15254Cm22231Cq145Bb1CuhB0BggQ0GO0C0VUdC3Be2Id3skBg4a1DjB592D72C0521115oBm41jBkcC6a
    a6o311Bh2B4ct3C1eb6v1Bn9e2a6n3C9o32g25a6262697171Bb1e6Dr122a6Kz4cn4BhII4Le2DaB67c55c1d151112
    121DcB1Eb6GqiC02BmB8a6ggg32o3B1111311111111Duja7q411qbCp36262623B3c1q1j121f2eB2DrC5BlE81E2t3
    Bhf1vB0du5Bb5u2B44815BaEu2a6B44B44B88Bkcb1f17121b1f1712C3Jn9ma8o61Ba19C56211Bc12312nan9vC1j1
    2amaqC6Bo62C041258131t2341B0t3tB381upBmamajdiDeC9BnBjdBjdB88aK6Ba1232CbB0a18B1vmBalrn9C7vg9B
    s71dp7a6Bl1a448B4219C5441d11B3i1B564Bu711141f1a7Br5a6418222m1712151a22232161572735EbCb5a44uC
    6118aF6Bm29n6B2C131baB6Bp7aBmr2f4a67FpBrD5Cal82128121u1229caC682Be2812rBv818Ca31iC9I791Bd19f
    aou2m1eC97121Bc3112198a66121B512167aJmn9h1B935daCm1CfyqD6DfhG4CScD1fBBggmDzaS7INpRp7v1a6Cf1a
    6u25bBn94ca9l5jVgC0E0Cb4Bp7hC0212b2eF-o8BGmBa9IX7417121J3f1t321e48McCI4Db5d397a32ET1Be2nQu53
    68827u4Ek3NrCl1C7122122241c11171C11428171s141511371Kk2p1p1v1p1v1p1v1p1v1p182BiQ0Bn4Bi81e1m51
    fBCgv66Gl71h2712155BuB11DgBd3e2a41K1vhBqOmBaX6714121f1G5b7B9Cc4aBF641r1211211a14111161411111
    1312112111111111121124171414111a1h53151hDJkaBA6BJX0B0EBq6Gu2FU2eHJhDAvQuBP2Ewb5ED0VXKgHg"),
   (["xidstart", "xids"], .setOfString
    "C1q6qBf1a1415n1v1Oa4ce57111E151233116113111k1Cj1Eb8F61B6216B9C7r44BdBbB321D311f272a321g11utC
    pb1oB192415m419131np7b5o16hBaBqBm31i17afg48222m17113431g1d213e2a186422m17121212v411j3g9131m1
    7121531i1f2n1b8222m17121531u213f1h116331432111232333cm1Bk8131n1g31q32122u148131n1a1531v212f2
    h9131B921g15383o65i3o191127BqBg11d7Bq211151o111a11a12511l4B01Bv81B4r5DjBbk1g6443132734dc1hB6
    11512Bb1Kd142711142B9142B1142711142f1Bp142C3B5ggCm263Tc2h1q5Cb3b7idjeied13fBkB3141C3Cp7B9115
    C6avBhu25bBc4qBmn9BlCi1CtBfh8Bmud2aBcqB4B93aB4297Bb23B941612315G0C0Im262B626281111111v2Bl171
    1331734264d5317Dk1d1gdD51412a11266111111g245541hB9CTnH56432cB611512Bo71gn9717171717171717R63
    p975254Cm631Cq145Bb1CuhB0BggQ0GO0C0VUdC3Be2Id3ga2kBfgv2CgB792D72C0521115og13141ntBkeBiBu6311
    2bsanpt7Bfs1g51aa51B9n318kn313Bi1132252111o32b73c6262697171Bb1e6DjtKz4cn4BhII4Le2DaB67c5511a
    1d151112121DcB1Eb6GqiC02BmB8aDn111311111111DuB4q6qbBo2v36262623B3c1q1j121f2eB2DrC5BlIbt3BhBf
    B0du5B6au2B44815BaEuiB44B44B88Bkcb1f17121b1f1712C3Jn9ma8o61Ba19C56211Bc12312nan9vC1j12amaqC6
    Bo62C01f4131tBat3tB381srBmamajdiDeC9BnBjdBjdB4KsBa62Ceta18mBaiBelrncBlBp221dBdB0pqB4t1218B33
    1cBge4l111B3i1pj2Bv711141f1a7BfB68222m17121531i1c5EuBli4k3uBgk211FoBfB94B4Bgk1BrBbd1C7rB57Fp
    BcDkC0v82128121of111Cu82B7g111s1aB871l1bBej1iC9I791B5h1BhuDg7121B6l1p6121B0e1K7jf11d1B2Ds1Cf
    yqD6DfhG4CScD1fBBgh6DzpS7INpRp7vhCfhuiBgg4vl5jVgC0E0Cb51C2dC0211sF-o8BGmBa9IX7417121J3f1t321
    e48McCI4Db5d397aFx6Cl1C7122122241c11171C11428171s141511371Kk2p1p1v1p1v1p1v1p1v1p18BZkv66I5Bu
    EiBda7g1K1uiBcP4sXk714121f1G5BrC471BFk41r1211211a1411116141111113121121111111111211241714141
    11a1h53151hEK4BJX0B0EBq6Gu2FU2eHJhDAvQuBP2Ewb5ED0"),
   (["graphemelink", "grlink"], .setOfString
    "CKd1Dv1Dv1Dv1Dv1Dv1Dv1Dv1Dd2g1Ds1Df1Dv1G91Fk2BWp2u1Et1Ud1H31D52C62EMb1+U61B51En1Ee1Dc1Jl1Hm1
    XSh1BQ61B91e1Bp1Dp2Eb1Dk1Fk1D21Hk1Dv1Hs1Dv1Dm1Dk1Id1I32F11Cj1i1Ch1N51I42Ch1N92")]

def named? (name : String) : Option Runs :=
  if ["alphabetic", "alpha"].contains name then some alphabetic else
  if ["whitespace", "wspace", "space"].contains name then some whiteSpace else
  if ["graphemeextend", "grext"].contains name then some graphemeExtend else
  if ["joincontrol", "joinc"].contains name then some joinControl else
  if ["lowercase", "lower"].contains name then some lowercase else
  if ["uppercase", "upper"].contains name then some uppercase else
  (others.find? (·.1.contains name)).map (·.2)

/-- The versions that assigned characters, the oldest first, numbered from one in this order. -/
def ages : List (List String) :=
  [["1.1", "v11"], ["2.0", "v20"], ["2.1", "v21"], ["3.0", "v30"], ["3.1", "v31"],
   ["3.2", "v32"], ["4.0", "v40"], ["4.1", "v41"], ["5.0", "v50"], ["5.1", "v51"],
   ["5.2", "v52"], ["6.0", "v60"], ["6.1", "v61"], ["6.2", "v62"], ["6.3", "v63"],
   ["7.0", "v70"], ["8.0", "v80"], ["9.0", "v90"], ["10.0", "v100"], ["11.0", "v110"],
   ["12.0", "v120"], ["12.1", "v121"], ["13.0", "v130"], ["14.0", "v140"], ["15.0", "v150"]]

/-- The number of the version that assigned each code point; zero stands for none. -/
def ageTable : Runs := .ofString
  "Pm144u1841617i437b8e9Cp15427Bf114a154h7C6194168758372114d64a212a201139111g4071101110k110Bc11
  a7114261114111411141114i12516574814c114C2114c114B911a242644Bl1262126212619s12481282169g649ga
  2b2c8g10B6120711kB711k1114202g1d10h218d2a11991123880r1401k51b0471d1g5a1811975a111f1o18111cq1
  5aj13437681ce126C81245114f114u127a15417e410u437r42037u8iaBh416e0Br9203kBeb20fb10sc201c10bj50
  vo102o608o1d1gbd6g2h1o8ianbo1kfi1hrd1g1b3117Bl12ci11b1c511b2cp12a5c1g2b2918291g311081202120m
  110711011304120111771202120311880114021105120l11b2j1k201711171061402120m11071102110211021201
  1105140212031301a7041101170f11a1ka03110711711103110m110711021105120a1103110312011f0113720a11
  d17701h6j10311081202120m11071102110174120811a20212031701n21402110312a20b1176ca02110613031104
  13021101110213021303130811831405130311041201a6011e018c187501g311k81103110n110a11g51201o1a711
  03110417021102a1h201o20212a20a1701l8a1i1g211k81103110n110a11051202771103110417021601o1110212
  920a110291pc01j1g211n81103110n11cg11c2j1a611a103110411c1i403i117i1h212a20a16a3i7a101n2410i43
  0o4109410142074301440641014108460ag2034c0Bq140t1B50211011101l211l11101l116l411l711l311011101
  12l211ld11l312051101110611p10a120212dB00C8210B12142a40r24c62141210l2347214123410f4101a14283a
  4b2cB50B241a541a241a743a446aq4C0a4b2aB61101d501d20B71262811183dCq15bC415bCi16b7418Bv41814104
  420741014104420B741814104420v4181410442074101410442074187410n418v418141044207418B7418j4202c2
  8s430q860Cl41h206h201bTm49bt430Ch48g70d61o761o901on690k6c0d610361026c0Ct41720a460a760f41oa46
  0Co41k70Ba41a50C6ba0t72g10c740c7401730Ba72057b0Ba82b40q860a81b3028B07s82028Bvb10tb20bb60ab60
  eb20fg2neoBh0Cc91o30Bd92o10Bba3dca6dBkc804cBoa30fa30Bja9i70Bbk203k8d80B3b4d1j2g1l50Dc7Co879s
  afg4j1o1i1c1b29Er1124aCq16am1206120B612061208110111011101110v120Bl110f110e1206110j1203110911
  0Bf114n116645627281678561a104f711620r110588c30b112133426483b1c1e3g1h1j1of0i1247618491af0Bp12
  41718f618291a3bBg114194a1b2h40Cr194c6Hi1e61114Dp11416u4Bk627b8c91bbc7g4i1jB5124p0b1l0Eb1k617
  Em1a6Cg18486k127261814Cm124c628a687b81a2b27g819aa3b4aab1cjb1c1b4cob1g411c412cs11cB311c111c41
  3c111b712c71e6v13co11ce11c78491d1a1d2cs64ag6I04Q06e768795a49B9a3g5a5bqg20B0g101nB2g3kcg1l8g1
  jpk4hfk1lBf81oBf81od93a1b3a496a2bDb87b2d50Bd8101d501d20Bm82d70181ce01cn890781078107810781078
  10781078107810B0ao84a28ja1bad7g2i5j5k1l3nboB20q410Cp4c0Gm4q0c440Bo13436141110Ck126206126Cu11
  650B811a1j1k10Cu110g1o43c5ng8kac0g6t12710B41cb17f6s12718Bi1f6c147Bf11mDn147D3127v117GNm4anC0
  7UN61m88a8b1d9hlj5kdn3oBEd430i426g416c41634161490BgbJcak0B0a2cia8dsa6g1h1dCob80n8495a29Dba2c
  1h2c2dcgac1d3g1i1k2g6h2k6l2o5l4n502o101o105oo03o2n1g2d1c5aBc81n30ab60Bo980C5a1i80ca60sb2h2kC
  kab01atb30Ceb10bb402bvg10Bna90ea20aa204asb4gC3bo05bnda06c206c206c907c107c10Bgg4h2g2l4n40CghB
  eb20ab60Kz42c0nb40Bhb40CA02GRe12dBr63b20Da8B6071c0515014p1105110111021102110Dc1gc1og0Ld1goC0
  120Bm1701oB05c116172og6a860413a7g2hl12627a110j110414031161110E71201110Cu126Cu130612061206120
  3130711071a0341331c710q710j7102710f720e7B20Dr7503740Bd73097Cb82g2i10ca1n301gBf0BeaE20ta30Bha
  f0sg40v51g45903jr550Bbg50u71017B4840e8Ba0B6527B65Cg720a760B4i40B4i40B8g80Bkgb01gbo10fo107o10
  2o10bo10fo107o102oC30Jng90mga08go06o10Bao109oC5067201710Bc7102730172017mb109bBvg809gBg0jh102
  h505hq92b3019qa501aC00Bod402h2dgh20Beh4810285088103810r82k203840981k709870B0bB0gB00B7g40cg90
  Bmb30tb20rb508big704gc07gCg0C9bBn0Bjhd0Bjh706hB8k80akJ60vb10Ban103n202nCb03pB8k80Bakm0qoB60s
  nk0nl90Cec40uc6o901gC2b1oa01k20pd70ad60Bld10ed3k1n80B7g90C9d4h1g2nad1g5h10kgb0ig10Bbg1i3pBu0
  7h101h104h10fh10bh60Brg50ag601h3g108g202g20mg107g102g105g101k9g202g203g201h601g507g207g305gE
  b0Cqi1n1i101i1k1l2nu0C8g80agF60Bmg20igkhB20C5gb0ag60dij0Bod1l1o60adBm0qh1k20fh40gh7oFp0BskD4
  0Cjgc01g7n201n208n102n10un102n20cn90anC608l20Bel20blr0C8j80Bkj2lnj1k5jd0goBpg70apHm09i10Bdi1
  0eia0ti30B0i20mi10eiC907j102j10Bcj301j102j109j80aj606k102k10B5k102k106k70akJm0pk70hp10B9p30s
  pCm01nf0Bild01lxf9Bag1hD60D39cg10491gb0G4hCSc0D3od0BBfb1p9ltpDza0S7hINp0Rpc70vg10ag402gCfo10
  ao60ug206ga0C6ga0ag107g10lg50jgVg0CrkD50C5d6l401lBfd9l70hdC001i1j2l1nb02ne0F-di5k6l80XjiP3nB
  a09nIX704o107o102o102cItj4of01pt03l201pe04l80McjCI40Dbg50dg309g70ag208gESs0Beo20no90DkoBs0Hm
  5a0B75201aFk5bh2ol0C68Dq0kpc0kkc0Cn790i97kE70Cl510C75102520152025204510c510151045172510C1510
  452085107510s5104510551015307510Ki52820J252920Bi5Uchf05h10fhBCg0vo606pGl07i10hi207i102i105i5
  0BupB101pDg0Bdl30el20al402lK00voh0Bql501lOg0BapX607o104o102o10fo10G5g20ggB90Cbi1l40ai402iYh0
  C4kCc0BtlG204d10rd102d101d201d10ad104d101d101d601d401d101d101d103d102d101d201d101d101d101d10
  1d102d101d204d107d104d104d101d10ad10hd503d105d10hdBk02dIe0Bca40D4ac0fc20ec1g10fc10fcmga0bb2g
  3nvb1k1c1bbc1b1c1b2c1b3c1b3c5b8c1b7c1bac2d1l3n9c1b1c2b2c1bac4b2c1bacii1nBo0qc1b2cd0B2b9c1i40
  9b702ce06jEq0B1ccg3h6c1gC6c1g2hkccgB5c1g5c4g5hcghc7g8hBvc1g1c1gFmc1g4c2g1hBuc2g4d7g5hocig1iB
  9g1iCmg5c1dgc1d3c1d1c1d1c1d1c1d3c1d6c2d4c1d1c2d4c1dcc2g2hbcBggC6cag1h2i2j1l2n401p3odg304g3i2
  j1k1l2n30Dkc3p405pClg4k1p60cl401of0cg40Bog80ag60B8g80ug202nCe0cj1n3l9h6i1j8i8j1i2jci1lci1j3k
  fidj5k1l1n4k2n1o1k1l4k5hdi6jbk2n6l3n2lak6l1h2k8l1n1o3lnjpkCklc0ek204l1n3p3l2o303l4n2p706ljn4
  o3p7n4o3p101p3n3o802p7n3o2p408o1p707o2p70Ejn10BnnB50anBA4022BJWn57n2oB00EBlb4o1p60Guc20FU2he
  0HJhjDAv0Qu5BP0022Ewbn50ED0pBXCe022B--u022B--u022B--u022B--u022B--u022B--u022B--u022B--u022B
  --u022B--u0221015u0D05E00Hg7B-Qe0EAA2200"

def assignedBy (age : Nat) (c : Char) : Bool :=
  match ageTable.value? c.toNat with
  | some (k + 1) => k + 1 ≤ age
  | _ => false

def isAlphabetic (c : Char) : Bool := c.isAlpha || (0x80 ≤ c.toNat && alphabetic.holds c)

def isAlphanumeric (c : Char) : Bool :=
  isAlphabetic c || c.isDigit || (0x80 ≤ c.toNat && Category.number.contains (Category.of c))

def isBlank (c : Char) : Bool := whiteSpace.holds c

/-- Characters of which words consist: letters, marks, decimal digits, connectors and joiners. -/
def isWord (c : Char) : Bool :=
  isAlphabetic c || Category.mark.contains (Category.of c) || joinControl.holds c ||
    [Category.decimalNumber, .connectorPunctuation].contains (Category.of c)

end AppLinks.Unicode.Property
