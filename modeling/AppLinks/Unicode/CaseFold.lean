import AppLinks.Unicode.Runs

/-!
Simple case folding: two characters are the same but for case if they fold to one character.
-/

namespace AppLinks.Unicode.CaseFold

/-- How far every code point moves when it is folded: an even value is twice a step up, an odd
value one less than twice a step down. -/
def table : Runs := .ofString
  "C10qC0Cq01BQea0nC0107C0B10121012101210121012101210121012101210121012101210121012101210121012
  10121012101210121012101210123012101210122012101210121012101210121012101220121012101210121012
  101210121012101210121012101210121012101210121012101210121012101210121012101Hh1210121012101Qn
  101N4121012101Ms12102Mq12201Eu1Mk1Mm12101Mq1Mu101N61N212301N61Na101Nc1210121012101Nk12101Nk2
  012101Nk12102Ni121012101Nm123012701412101412101412101210121012101210121012101210122012101210
  121012101210121012101210122014121012101G11Df121012101210121012101210121012101210121012101210
  121012101210121012101210121012101I3101210121012101210121012101210121012701VCm12101K51VCg2012
  101M51Ea1Ee121012101210121012Hm01H8Ba01210123012801H8601Cc103Ca101E0102Du10hC0109C0m012c01g1
  Br1Bh301t1Bb101210121012101210121012101210121012101210121012101Db1Cv201Dn1Dv1012101d12203I3g
  F0B0C0Bg012101210121012101210121012101210121012101210121012101210121012101290121012101210121
  01210121012101210121012101210121012101210121012101210121012101210121012101210121012101210121
  01u12101210121012101210121012201210121012101210121012101210121012101210121012101210121012101
  21012101210121012101210121012101210121012101210121012101210121012101210121012101210121012101
  210121012101210121012101210121012101220B6D0Cw90B6OG0101OG0501OG0Za06fCE201MEr1MEp1ME72ME31ME
  51MDn1MC71CEy670BbFxv203FxvK0012101210121012101210121012101210121012101210121012101210121012
  10121012101210121012101210121012101210121012101210121012101210121012101210121012101210121012
  10121012101210121012101210121012101210121012101210121012101210121012101210121012101210121012
  1012101210121012101210121012101210121012101210121012601Dj201Oxt10121012101210121012101210121
  01210121012101210121012101210121012101210121012101210121012101210121012101210121012101210121
  01210121012101210121012101210121012101210121012101210121012101210121012908f806fa08f808f806fb
  01f101f101f101f808fo08f808f808f802f2Ej1h101OA9904Fb1hb02f2G7c02f2Gv1db02Hv2Hr1hJ901OVp301QLt
  1QEb601BoBd0gB0j012Zi0qBkBZg0BgD0Bg012101U-d1HOb1U+d201210121012101VBn1U-p1VBt1VBr1012201280
  2VDt1210121012101210121012101210121012101210121012101210121012101210121012101210121012101210
  12101210121012101210121012101210121012101210121012101210121012101210121012101210121012101210
  121012101210121012801210124012+Kd01210121012101210121012101210121012101210121012101210121012
  10121012101210121012101210121012j0121012101210121012101210121012101210121012101210121012E701
  21012101210121012101210123012101210121012101210121012101210121012101210121012101210121012101
  210121012101210121012101210121012101210121012101210121012a0121012101CFA712101210121012101240
  12101CSSf201210123012101210121012101210121012101210121012101CSU71CSUt1CSUl1CSU11CSU7101CSR31
  CSSj1CSR91Bw0121012101210121012101210121012101Cv1CSU51CFDf121012601250121012s012xq0CgCLyvUx1
  0qC0BG50B8CgE80B4CgEs0bCe10fCe107Ce102CeBXa0BjE0C-d0B0C0VM00B0C0+V00B2C4+FWu0"

/-- The characters of some runs that move, each with the character it folds to; the first run
starts at code point `n`. -/
def moves : Runs → Nat → List (Char × Char)
  | [], _ => []
  | (len, v) :: r, n =>
    if v = 0 then moves r (n + len)
    else (List.range len).map (fun i =>
      (Char.ofNat (n + i), Char.ofNat (if v % 2 = 0 then n + i + v / 2 else n + i - (v + 1) / 2)))
        ++ moves r (n + len)

def pairs : List (Char × Char) := moves table 0

def fold (c : Char) : Char := (pairs.lookup c).getD c

/-- The characters that are the same as `c` but for case, `c` among them. -/
def orbit (c : Char) : List Char :=
  let f := fold c
  f :: (pairs.filter (·.2 == f)).map (·.1)

end AppLinks.Unicode.CaseFold
