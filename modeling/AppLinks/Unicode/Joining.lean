import AppLinks.Unicode.Compose

/-!
Where the two invisible joining characters may stand in a label of a host name: after a mark
that suppresses a vowel, and, for the one that keeps letters apart, between letters that would
otherwise join.
-/

namespace AppLinks.Unicode.Joining

/-- For every code point how it joins: `1` to what follows, `2` to what comes before, `3` to
both, `4` if it lets others join across it, and otherwise not at all. -/
def table : Runs := .ofString
  "Fd014Si0Dg4Ij074I70Bd41014102410241014C80b4101430131042131213125342d315731223l4e02314321032g
  3i2B6312239213121312232210127420642024104422a0332013f0141214335243129312131213122312r42012b3
  32f32243121322332263B60b4p0B139460152014o044109410341054i01253221312a31213323440131043101213
  2250j235132053129084a332101223226312f310o410B04Bn0141014408440143074a024t014Bq01440448014k02
  4q0142024Bp0144024402420343014u0243014b024Bp014405410244014k024m0641014Bq0142014104480147024
  b024u014Bt014c014Bi0143014Bn0141034503410447024b024t014Bq014201460145024k024s024Bp0244044801
  4k024t014C801470341014Cq0142074c084D20142094b074C9024r01410141014Bn0e41054102450b410B449014D
  6044106410242024p0244034g044d01420246014f014Vv034zi034t024u024u024C00241074801420b49014B9013
  2015341014g0Cp3c024B231413Dl034402490146034Gr0242014Bq014107410141014208460a42014Bg0v4Bh044B
  g014105410145014B8094c024B004420241034Bo014102430141034Bq0842024Eo03410d41074401460143024G60
  C04Qb014101524q054Bh0545064D00B14C-u034Ed014D00B04Ra044Db024zOk04410a4B0024Cg024Ig0143014401
  4p0245014j0Bi311Ch024q0i4d014B6084p0b4Be034Bg01420442024B7014C306420242024c0148014Bf014Bj014
  1034202450241014Ba0248014He01420144014TZg014X10g4g0g4Gf014Hp034Q1014H2014El054BU603410245044
  B80344014E00531210121022201152431153123312201224404312Eg0131213323312231213221312n04223Kh011
  B13121344M3024Cg034Bg03312h310b43312r04322c344Ba0131023321013222312231013221340121311Bl014Bm
  0f4B90142024a034Bh04420247014Bt034B40541084Bu014c024Bk094a0442014Cv0342014102460142014Et0143
  084l024Bp0243014B50743054G308420341014n014Ck064101440241024He04460241024r024Cl08420141024Da0
  14101420641014D503420441054I30941024I002410144014Eg04420244014B00a4B80642044801490642034Be0d
  41024Mm07410641014Ci0m4207410241024Dq0643014102410741014C802430141014Kr024b024Bk05450141014F
  Hd0h460f4NUq054Br074BAo014Bv044Ch014TFo0241044ESs0Be420n4R003490g42074u044Ek034Bzr0Bn440Bi48
  014e014m05410f4BKg07410h4207410241054D4014F0074Ln014Bt044Ps044-0074B90C4384YFVl014u0D04E00Hg
  4F-Qg0"

def kind (c : Char) : Nat := (table.value? c.toNat).getD 0

def nonJoiner : Char := '\u200c'

def joiner : Char := '\u200d'

/-- Whether the joining characters of a label may stand where they do; `before` is what comes
before, the last first. -/
def allows (before : List Char) : List Char → Bool
  | [] => true
  | c :: r =>
    let suppressed := before.head?.any fun d => Compose.classOf d = 9
    (if c = joiner then suppressed
      else if c = nonJoiner then
        suppressed ||
          (((before.dropWhile fun d => kind d = 4).head?.any fun d => kind d = 1 || kind d = 3) &&
            ((r.dropWhile fun d => kind d = 4).head?.any fun d => kind d = 2 || kind d = 3))
      else true) && allows (c :: before) r

end AppLinks.Unicode.Joining
