import AppLinks.Unicode.Runs

/-!
Canonical composition: texts that look alike are given one form, in which a letter and its marks
are one character wherever there is one.

A text is taken apart, its marks are put in order of their classes, and it is put together
again.
-/

namespace AppLinks.Unicode.Compose

structure Rule where
  char : Char
  first : Char
  second : Option Char
  composes : Bool

/-- Reads the rules from numbers: the distance from the last character, a kind, and one or two
characters. -/
def readRules (fuel : Nat) (prev : Nat) : List Nat → List Rule
  | gap :: 0 :: a :: r => match fuel with
    | 0 => []
    | k + 1 => ⟨Char.ofNat (prev + gap), Char.ofNat a, none, false⟩ :: readRules k (prev + gap) r
  | gap :: kind :: a :: b :: r => match fuel with
    | 0 => []
    | k + 1 =>
      ⟨Char.ofNat (prev + gap), Char.ofNat a, some (Char.ofNat b), kind = 1⟩
        :: readRules k (prev + gap) r
  | _ => []

def rules : List Rule := readRules 2061 0 (numerals
  "G01C1Y011C1Y111C1Y211C1Y311C1Y811C1Ya21C3Z711C5Y011C5Y111C5Y211C5Y811C9Y011C9Y111C9Y211C9Y82
  1CeY311CfY011CfY111CfY211CfY311CfY831ClY011ClY111ClY211ClY811CpY131D1Y011D1Y111D1Y211D1Y311D
  1Y811D1Ya21D3Z711D5Y011D5Y111D5Y211D5Y811D9Y011D9Y111D9Y211D9Y821DeY311DfY011DfY111DfY211DfY
  311DfY831DlY011DlY111DlY211DlY811DpY121DpY811C1Y411D1Y411C1Y611D1Y611C1Z811D1Z811C3Y111D3Y11
  1C3Y211D3Y211C3Y711D3Y711C3Yc11D3Yc11C4Yc11D4Yc31C5Y411D5Y411C5Y611D5Y611C5Y711D5Y711C5Z811D
  5Z811C5Yc11D5Yc11C7Y211D7Y211C7Y611D7Y611C7Y711D7Y711C7Z711D7Z711C8Y211D8Y231C9Y311D9Y311C9Y
  411D9Y411C9Y611D9Y611C9Z811D9Z811C9Y741CaY211DaY211CbZ711DbZ721CcY111DcY111CcZ711DcZ711CcYc1
  1DcYc51CeY111DeY111CeZ711DeZ711CeYc11DeYc41CfY411DfY411CfY611DfY611CfYb11DfYb31CiY111DiY111C
  iZ711DiZ711CiYc11DiYc11CjY111DjY111CjY211DjY211CjZ711DjZ711CjYc11DjYc11CkZ711DkZ711CkYc11DkY
  c31ClY311DlY311ClY411DlY411ClY611DlY611ClYa11DlYa11ClYb11DlYb11ClZ811DlZ811CnY211DnY211CpY21
  1DpY211CpY811CqY111DqY111CqY711DqY711CqYc11DqYcB21CfYr11DfYre1ClYr11DlYrt1C1Yc11D1Yc11C9Yc11
  D9Yc11CfYc11DfYc11ClYc11DlYc11GsY411HsY411GsY111HsY111GsYc11HsYc11GsY011HsY021G4Y411H4Y411R6
  Y411R7Y411G6Y411H6Y431C7Yc11D7Yc11CbYc11DbYc11CfZ811DfZ811PaY411PbY411NnYc11UiYc11DaYc41C7Y1
  11D7Y131CeY011DeY011G5Y111H5Y111G6Y111H6Y111GoY111HoY111C1Yf11D1Yf11C1Yh11D1Yh11C5Yf11D5Yf11
  C5Yh11D5Yh11C9Yf11D9Yf11C9Yh11D9Yh11CfYf11DfYf11CfYh11DfYh11CiYf11DiYf11CiYh11DiYh11ClYf11Dl
  Yf11ClYh11DlYh11CjZ611DjZ611CkZ611DkZ631C8Yc11D8Yc71C1Y711D1Y711C5Z711D5Z711GmY411HmY411GlY4
  11HlY411CfY711DfY711ReY411RfY411CpY411DpY4Id0Y010Y120Yj12Y8Y1Bg0Vpa0Br71F8Y111yhY110Fn11ylY1
  11ynY111ypY121yvY121z5Y111z9Y111+aY1q1ypY811z5Y811zhY111zlY111znY111zpY111+bY1q1zpY811+5Y811
  zvY111+5Y111+9Y151+iY111+iY8Bc1BAlY011BAlY821BAjY141BA6Y851BAqY111BAoY011BB3Y6b1BAoY6B01BBoY
  6n1BBlY011BBlY821BBjY141BCmY851BBqY111BBoY011BC3Y6o1BDkYf11BDlYfCa1BAmY611BBmY6e1BAgY611BBgY
  611BAgY811BBgY831BAlY611BBlY631BGoY811BGpY811BAmY811BBmY811BAnY811BBnY831BAoY411BBoY411BAoY8
  11BBoY811BAuY811BBuY831BH8Y811BH9Y811BBdY811BCdY811BB3Y411BC3Y411BB3Y811BC3Y811BB3Yb11BC3Yb1
  1BB7Y811BC7Y831BBbY811BCbY8J91BR7BSj11BR7BSk11BS8BSk11BR7BSl11BSaBSkEq1BWlBSk21BW1BSkh1BWiBS
  kSm1CJ8CJs81CJgCJs31CJjCJsB42CIlCJs12CImCJs12CInCJs12CIsCJs12CJ1CJs12CJ2CJs12CJbCJs12CJfCJsD
  c1CO7CNu11CO7COng2CN1CNs12CN2CNs22CNfCNsCk2CRiCRs32CRoCRsB32CQmCRs12CQnCRs12CQsCRs32CRbCRsHa
  1Cw7Cwm31Cw7CZu11Cw7Cwng2CZ1CZs12CZ2CZsBn1CyiC+nBm1C+6Czu11C+7Czu11C+6C+nDs1DC6DCmDo1DFvDGl7
  1DG6DGl11DG6DGm21DG6DG211DGaDGlDv1DK6DJu11DK7DJu11DK6DKnEe1DOpDOa21DOpDOf11DOsDOa11DOpDOvL52
  Dw2Dzna2DwcDzn52DwhDzn52DwmDzn52DwrDznd2Dw0Dzla2DxhDxi22DxhDxk12DziDy022DzjDy092DxhDy0i2DyiD
  zna2DysDzn52Dz1Dzn52Dz6Dzn52DzbDznd2DygDzlDd1EB5EBeCX01GY5GZl21GY7GZl21GY9GZl21GYbGZl21GYdGZ
  l41GYhGZlB91GZqGZl21GZsGZl31GZuGZl11GZvGZl21Gw2GZlVt1C1Z511D1Z511C2Y711D2Y711C2Z311D2Z311C2Z
  h11D2Zh11G7Y111H7Y111C4Y711D4Y711C4Z311D4Z311C4Zh11D4Zh11C4Z711D4Z711C4Zd11D4Zd11IiY011IjY01
  1IiY111IjY111C5Zd11D5Zd11C5Zg11D5Zg11R8Y611R9Y611C6Y711D6Y711C7Y411D7Y411C8Y711D8Y711C8Z311D
  8Z311C8Y811D8Y811C8Z711D8Z711C8Ze11D8Ze11C9Zg11D9Zg11GfY111HfY111CbY111DbY111CbZ311DbZ311CbZ
  h11DbZh11CcZ311DcZ311HRmY411HRnY411CcZh11DcZh11CcZd11DcZd11CdY111DdY111CdY711DdY711CdZ311DdZ
  311CeY711DeY711CeZ311DeZ311CeZh11DeZh11CeZd11DeZd11GlY111HlY111GlY811HlY811KcY011KdY011KcY11
  1KdY111CgY111DgY111CgY711DgY711CiY711DiY711CiZ311DiZ311HSqY411HSrY411CiZh11DiZh11CjY711DjY71
  1CjZ311DjZ311KqY711KrY711L0Y711L1Y711HT2Y711HT3Y711CkY711DkY711CkZ311DkZ311CkZh11DkZh11CkZd1
  1DkZd11ClZ411DlZ411ClZg11DlZg11ClZd11DlZd11L8Y111L9Y111LaY811LbY811CmY311DmY311CmZ311DmZ311C
  nY011DnY011CnY111DnY111CnY811DnY811CnY711DnY711CnZ311DnZ311CoY711DoY711CoY811DoY811CpY711DpY
  711CqY211DqY211CqZ311DqZ311CqZh11DqZh11D8Zh11DkY811DnYa11DpYa21LvY751C1Z311D1Z311C1Y911D1Y91
  1G2Y111H2Y111G2Y011H2Y011G2Y911H2Y911G2Y311H2Y311HV0Y211HV1Y211I2Y111I3Y111I2Y011I3Y011I2Y91
  1I3Y911I2Y311I3Y311HV0Y611HV1Y611C5Z311D5Z311C5Y911D5Y911C5Y311D5Y311GaY111HaY111GaY011HaY01
  1GaY911HaY911GaY311HaY311HVoY211HVpY211C9Y911D9Y911C9Z311D9Z311CfZ311DfZ311CfY911DfY911GkY11
  1HkY111GkY011HkY011GkY911HkY911GkY311HkY311HWcY211HWdY211N0Y111N1Y111N0Y011N1Y011N0Y911N1Y91
  1N0Y311N1Y311N0Z311N1Z311ClZ311DlZ311ClY911DlY911NfY111NgY111NfY011NgY011NfY911NgY911NfY311N
  gY311NfZ311NgZ311CpY011DpY011CpZ311DpZ311CpY911DpY911CpY311DpY371zhYj11zhYk11HY0Y011HY1Y011H
  Y0Y111HY1Y111HY0w211HY1w211yhYj11yhYk11HY8Y011HY9Y011HY8Y111HY9Y111HY8w211HY9w211zlYj11zlYk1
  1HYgY011HYhY011HYgY111HYhY131ylYj11ylYk11HYoY011HYpY011HYoY111HYpY131znYj11znYk11HZ0Y011HZ1Y
  011HZ0Y111HZ1Y111HZ0w211HZ1w211ynYj11ynYk11HZ8Y011HZ9Y011HZ8Y111HZ9Y111HZ8w211HZ9w211zpYj11z
  pYk11HZgY011HZhY011HZgY111HZhY111HZgw211HZhw211ypYj11ypYk11HZoY011HZpY011HZoY111HZpY111HZow2
  11HZpw211zvYj11zvYk11Hw0Y011Hw1Y011Hw0Y111Hw1Y131yvYj11yvYk11Hw8Y011Hw9Y011Hw8Y111Hw9Y131+5Y
  j11+5Yk11HwgY011HwhY011HwgY111HwhY111Hwgw211Hwhw221z5Yk21HwpY021HwpY121Hwpw211+9Yj11+9Yk11Hx
  0Y011Hx1Y011Hx0Y111Hx1Y111Hx0w211Hx1w211z9Yj11z9Yk11Hx8Y011Hx9Y011Hx8Y111Hx9Y111Hx8w211Hx9w2
  11zhY010zc11zlY010zd11znY010ze11zpY010zf11zvY010+c11+5Y010+d11+9Y010+e31HY0w511HY1w511HY2w51
  1HY3w511HY4w511HY5w511HY6w511HY7w511HY8w511HY9w511HYaw511HYbw511HYcw511HYdw511HYew511HYfw511
  HZ0w511HZ1w511HZ2w511HZ3w511HZ4w511HZ5w511HZ6w511HZ7w511HZ8w511HZ9w511HZaw511HZbw511HZcw511H
  Zdw511HZew511HZfw511Hx0w511Hx1w511Hx2w511Hx3w511Hx4w511Hx5w511Hx6w511Hx7w511Hx8w511Hx9w511Hx
  aw511Hxbw511Hxcw511Hxdw511Hxew511Hxfw511zhY611zhY411Hxgw511zhw511zcw521zhw211Hzmw511yhY611yh
  Y411yhY010y611yhw520zp31F8w211Hxkw511znw511zew521znw211H+6w511ylY010y811ynY010y911ynw511HzvY
  011HzvY111Hzvw211zpY611zpY411+aY010yg31zpw211+aw211ypY611ypY411ypY010ya21H-uY011H-uY111H-uw2
  11+5Y611+5Y411+bY010zg11+1Yj11+1Yk11+5w211+bw211z5Y611z5Y411z5Y010ye11z1Yk11F8Y010y510D031Hx
  sw511+9w511+ew521+9w211H-mw511yvY010yc11z9Y010yf11z9w510Fk30IA210IA3J50z940Cb10G5Df1IMgZo11I
  MiZoj1IMkZov1IOgZo11IOkZo11IOiZoBl1IQ3Zo51IQ8Zo31IQbZoo1IR3Zo21IR5Zor1IRsZo31IS3Zo31IS5Zo21I
  S8Zon1BtZo21IT1Zob1ISdZo11BsZo11BuZo11IT4Zo11IT5Zo31ITiZo11ITjZo31ITmZo11ITnZo71ITqZo11ITrZo
  31IU2Zo11IU3Zo31IU6Zo11IU7ZoB31IV2Zo11IV8Zo11IV9Zo11IVbZoBh1ITsZo11ITtZo11IUhZo11IUiZo71IViZ
  o11IVjZo11IVkZo11IVlZoBs0MA810MA9Bzi2KWtZoBLg1MCbMEp21MCdMEp21MCfMEp21MChMEp21MCjMEp21MClMEp
  21MCnMEp21MCpMEp21MCrMEp21MCtMEp21MCvMEp21MD1MEp31MD4MEp21MD6MEp21MD8MEp71MDfMEp11MDfMEq21MD
  iMEp11MDiMEq21MDlMEp11MDlMEq21MDoMEp11MDoMEq21MDrMEp11MDrMEqn1MC6MEpa1MEtMEpe1MFbMEp21MFdMEp
  21MFfMEp21MFhMEp21MFjMEp21MFlMEp21MFnMEp21MFpMEp21MFrMEp21MFtMEp21MFvMEp21MG1MEp31MG4MEp21MG
  6MEp21MG8MEp71MGfMEp11MGfMEq21MGiMEp11MGiMEq21MGlMEp11MGlMEq21MGoMEp11MGoMEq21MGrMEp11MGrMEq
  n1MF6MEp31MHfMEp11MHgMEp11MHhMEp11MHiMEp41MHtMEpBSA20BDC810ZXk10BDWa10BDG810xWh10TRi10U-510B
  Hys10BHys10WKh10BEOh10VM710WK810YPm10zT910-y510BBRv10BBzq10BCHo10BEEf10wQ210xIr10yGp10y+u10B
  BBt10BELa10BGPh10TU210Uxl10wY410yQr10BBRd10BHQu10XKg10x-b10BBOd10BCL410YW910BAOo10BCAv10XWa1
  0ZYn10xLa10yXs10BEGe10Ty610UNn10UWu10ZG410wWj10yQg10zX710BAA110BBQ610BBSs10BDPf10BFZi10BGxf1
  0BHPq10+Ec10+Lv10-N010BA+910BEY410BHTv10BCWm10WGv10XY410-D010BADu10yT210+Ga10BDG210BFXn10WGo
  10XD210wQj10xOq10xYf10-Jf10-Rn10BFSb10UWi10BAEb10UOs10UOc10+Qs10-Nu10BA-h10BFTl10BCy010YWf10
  wQ210BCXu10TRp10W-710YAi10yy710zLg10UYn10+Hr10Tzv10Xz910TQd10xGc10ZLo10-J210U+310WCu10zY110B
  BC910BCVa10wzq10BDzg10xE810YXu10BAX510Yz010zL510TVe10UL910UO910wE110-H710BATf10BCWi10BEOf10U
  Xl10VC210WLj10XXc10ZO510x-u10+Ja10BFNd10BGTa10BHUn10BHWe10UUr10ZW610wxn10BDx210XTk10YMg10YQ0
  10ZEq10xZ310yK910zE910+Oa10-Pk10BADf10BDZ610BBHe10BEB310BEwa10UQn10UV310VFt10yG810BCG210BCVa
  10XW910X-l10Yxr10wze10-Bu10yxl10TX410VXp10W-710XNq10YAs10yzi10zD910-yq10BAC610BERk10BFXm10BF
  w810BGAo10Tyb10+Ne10BENk10BFVo10YH110TU610UGq10W-e10XBv10ZMp10wQ210yOe10zS210BBHs10BEDs10BHy
  d10ZU810BFRe10UU910Zxr10Z-j10xK110xUs10zA910zKp10+Db10-Ig10BGCu10ULd10YRe10BFTo10UBb10XIp10x
  Pa10BDZa10Xyb10YK410wAn10yy710BFU610UR910VAf10XD510ZQj10Zwe10wF810xH510zA610zP210-xp10BCGf10
  BCH110BEOc10BFX210UZv10xVq10VAt10yOg10zEo10BBPq10BFV310BHCn10BHUv10Zyn10xOb10BAP810+Wb10+Z01
  0-Ei10yW010yEp10BCwo10TW010BAZm10URq10UQ710XV610YWj10-Gm10Wy510xIu10ZVk10BDZr10BCCc10BFSd10B
  CMb10XWj10UK010VO030WCq20ZTk30UOu10yZa10zWa10+Js10+Ku10+L510+Mf10BFwm10-Fu10-zt20BBQi20BCXo3
  0BEBo10BEHt40BGHf10BGHs10BGJ810BHNk10BEGu10BFVn10Tze10UH710UKd10UW910UX410Uwh10VMt10VQ610VT8
  10WC010WF810XD410XDe10YEk10YL810YMe10YPi10ZKf10ZP210ZUh10wE510xLn10xQq10xZ210yLe10yRb10zB210
  +Eh10+Ju10+K910+K810+Kg10+Km10+Kt10+Md10+Me10+S010+U110++010-Pk10-Q910-S110-xi10BAA510BAPd10
  BATp10BATp10BBCn10BCIg10BCMm10BCY110BCZp10BDGj10BDI810BDzm10BEBo10BFX310BF-v10BGBr10YDl10EQX
  e10BAQo30TR610UNl10UL810Ty010UK510UM010UW710UXq10VMt10VKl10VMp10VP210WCq10WFj10WK410WKk10WT2
  10WZ810XWi10XWp10Xx910Xzd10YGo10YKe10YI810YMe10YL010YPi10YRk10Y+410ZAs10ZCi10ZKm10ZTk10ZYn10
  ZYr10Zwm10wxp10wzq10xK110xWr10xWb10xZ210yAu10yLe10zz710yRl10yVf10yZa10zDh10zI610zJr10zQt10zQ
  v10zWa10zWr10zXk10zwa10zw010+Gc10+Vh10++010-Dr10-Kr10-Pk10-Zu10BAA510BAwi10BA-f10BBxp10BCK11
  0BCM610BCMm10BCVv10BCXo10BCWb10BCY110BCXu10BCXd10BCZp10BCya10BDI810BDZo10BEDi10BEMp10BETm10B
  FTs10BFX310BFwm10BF+r10BF-v10BGAb10BGBr10BGYi10BHys10EKCa10EKC410EM+l10Oyt10QAo10QBp10EUS910
  EXGg10E-Wj10BHw310BHyeC42BOpBNk22BPiBNnb2BP9BO112BP9BO212B+w9BO112B+w9BO212BOgBNn12BOgBNo12B
  OgBNs12BOhBNs12BOiBNs12BOjBNs12BOkBNs12BOlBNs12BOmBNs22BOoBNs12BOpBNs12BOqBNs12BOrBNs12BOsBN
  s22BOuBNs22BP0BNs12BP1BNs22BP3BNs12BP4BNs22BP6BNs12BP7BNs12BP8BNs12BP9BNs12BPaBNs12BOlBNp12B
  OhBNv12BOrBNv12BP4BNvFKc1CEEpCEFq21CEErCEFqf1CEF5CEFqE31CEJhCEJ711CEJiCEJ7Qs1CEw7CEZu11CEw7C
  EwnLf1CFFpCFFq11CFFpCFFg21CFFpCFFtHs1CFNoCFNf11CFNpCFNfxt1CGJlCGJgBOB62DUKnDUL512DUKoDUL512D
  UKvDULe12DUKvDULf12DUKvDULg12DUKvDULh12DUKvDULiCn2DUNpDUL512DUNqDUL512DUNrDULe12DUNsDULe12DU
  NrDULf12DUNsDULfCJS00TRt10TRo10TS110EAJ210Tx010Tze10Tzr10UA210UDq10UEp10UH710UGf10NEu10EBRq1
  0UKd10UKk10UL410ULn10EBIs10NFp10UL710UMd10EBKb10UMn10UN410TWc10UNc10UNl10FEOv10UPl10UQ310NGv
  10URr10US610UTi10UTn10NIl10UW710UW910UX410UXq10UY510UY610UYn10Uw910Uwh10Uwq10Uxj10Uxt10Uxv10
  Uxv10Uxv10ECRc10yDg10U+a10U+v10ECx310U-b10U-h10VA610VEu10VBo10VC810VD810VF210VHm10VIg10VKj10
  VL310VM410VM410VMp10VNb10VNj10VO210VYm10VQ610VYn10VSh10VTk10UQ710WHe10V+e10V-k10WAd10Vyb10WB
  i10WBh10WFc10EFH410WHi10WHn10WI610WIq10WJ210WL210EFV810EFXa10WPc10WQr10WR710WOo10WT610NXe10N
  Xs10WY810WZu10WZu10EGO810W+310W+o10W-710W-j10EGYo10W-v10XA610Xwj10XB210Ny110XD010XDe10XG010X
  Ed10EHP410XK310EHP610XLe10XLb10XLs10XP110XP210OBf10XPt10XR810XRt10XT910OD210EIM310ODs10XVg10
  XVj10XVm10XWa10FIyi10XXu10EIZh10EIZh10BAQ110XZ210XZ210OG710EMVo10EYOq10Xx210Xxb10OH310Xyq10X
  +d10X+n10X-p10YE110OJq10OIs10YEk10EJWk10YG710YK810YKc10YKe10YKc10YLq10YMe10YNi10YN410YNf10YO
  u10YPi10YPm10YQg10YQr10YSt10YVh10YWk10Ywg10EKYc10YZt10YXs10Yx810Yy310Y-410EK-h10ZB210Y+510Yz
  910ORe10ZD910ZDu10ZEt10ZDn10OTc10ZKf10ZLc10EMAa10ZP310ZXo10ZS910OYp10ZUh10OY810OX410UMi10UMl
  10ZY010ZUs10BAFd10Q+p10ZYn10ZYr10ZZ110Zwu10Zwj10EM+310Ow910Z-q10Zy510wCi10wE510ENDd10wEe10wA
  v10wIk10Oyt10wK210wN310wPa10wV810ENV310wWr10PAo10wZ110EOF710wwk10PCe10wxi10wyv10wzq10wzr10EO
  Ud10EHIb10EOXq10xCe10EPFs10xFv10xGd10xD710xIm10xJu10xLn10xK110xL910xLo10xM510EPIu10xJk10xRf1
  0xTe10PJj10xWb10xW710EPWh10xPp10xxe10EPwu10EPye10x+610yBp10yAu10yAr10PMm10yCa10yDt10yDn10yFd
  10EBJ510yK510EQT310yMs10EQzb10yR810yRl10ySg10ERQ810yU010yUl10ERZl10ESAk10yxq10yyb10PVc10yz51
  0PVo10PVo10zC710zCs10zDh10zE510zGa10PYr10zJ410ETBm10zJu10ETEi10zLg10EIMv10zQg10ETz110ETzo10E
  UC410P-s10QA810zXk10EUHj10EUHi10EUIp10EUJj10zYu10zYv10zYv10zwa10QBp10zyb10QC610QEm10EVAt10+C
  e10+Ec10+Gc10QH310EVR610+Km10EVUq10EVW510+Mf10+Pb10QJf10+S010+Sa10+Sf10EWLs10EWV710EWV710+Xe
  10QQ210EWzb10++610++910QR710EXE010-Gi10QV010-H810-H310-I010EXy610-L310QY110-O710-Q210-S510QZ
  k10EYR810EYS710Qwp10EYWp10-xq10EYZu10-yl10--q10BAA510EZGq10EZJ310BAD010EZN810BADg10EMwv10Q+l
  10BAFi10BAI310RAb10BAJu10WVl10EZz710EZzl10EMyj10EMys10BAQ110BAQ410BDyu10RDb10BAUh10BAUb10BAU
  t10UVj10BAVh10BAVj10BAVt10BAX610EwZs10BAX510BAYt10BAx310BAzd10BAZ310BAzt10BA-710BBCn10BAwj10
  BA+a10BA+c10BA+s10ExBm10ExLb10ExGl10RJb10BBHh10BBHj10BBIm10Ey+a10BBL410ExZc10RKt10RL110Exzh1
  0EyGi10RLb10BBSg10BBSs10BBT710BBT910BBV910BBU810BBYe10BBX210BBxp10BBZ810BBxb10BBy610ROn10BB-
  110BCA110RPp10BCD010BCD310EzT710BCGn10BCGu10RRl10BCHq10NFr10E+Fe10E+L610RVu10RW710BCV010BCXd
  10BCya10BDCl10E-F810BDFb10BDG110BDIr10BDLn10E-Zf10ECA410BDOb10BDNs10BDPg10ECGu10BDWk10BDZo10
  FBOi10FBPd10BEEk10BEHh10BEIh10FBZe10BEIr10BERo10BEWn10BEWo10BETs10BE-p10BFAl10FC-q10BFMb10SM
  l10BFNn10FDLn10SP610BFW310XNi10BFZ310FEK510FEQq10STe10STm10BF-010FFAa10SVi10FFEm10BGAb10BGAb
  10BGB910FFNm10BGH210SZj10BGJ910BGN710BGO210BGPu10S+e10FGZg10BGYi10BHC010BHHt10TGe10THd10BHL7
  10FIGe10THo10FII510FIQe10FIUh10BHVr10TKm10BHXp10BHXu10BHY510BHYf10BHYm10BHZr10FJQ0")

/-- The combining class of every code point; zero where a letter begins. -/
def classTable : Runs := .ofString
  "Y00lH61H84Gs1H81Go5Gs2Ga4Gs2GabGs514Gs8H61Hg1H63Gs3H62Gs103H64Gs1H61H82Gs1H61H92Ha1H92Ha1H9d
  H6Ij05H6I901Gs4H61Gs3H61Gu1Gs6H66Gs2H61Gs2H61Gu1H41H61a1b1c1d1e1f1g1h1i2j1k1l1m101n101o1p101
  H61Gs101iC808H61u1v1B0Bg01r1s1t1u1v1B01B11B22H62Gs5H61Gs2H61Gsg01B3D507H6204H61Gs1H6202H6101
  Gs2H61GsB301B4u01H61Gs2H61Gs2H63Gs1H62Gs1H61Gs3H61Gs1H61Gs1H61Gs1H61Gs2H6F007H61Gs1H6901Gso0
  4H6109H6103H6105H6Bb03GsBs01H63Gs4H6Ba05H65GseH6101Gs2H61Gs2H61Gs3H63Gs1r1s1t3H61Gs2H62Gs5H6
  Bs017g019301H61Gs2H6D7017g019Bg01H6Bt017g019De017g019De017g019Dv019De017g019701Ck1CrD5017g01
  9Dd029g019Ds019Dd02D719d04DbDc02Dm19d04DqCc02Gsr01Gs101Gs101GoBn01E11E2101E4504E2201E2102H61
  9102H6Bu01GsDg0171029Ci01GsWf03H6zk029u019Et019a01H6Gb01H4Ef01Gu1H61GsGr01H61GsC7019k08H6201
  GsBg05H66Gs2H61Gs102Gs2H62Gs5H61Gs4H6D5017f019B601H61Gs7H6Bm029Bq017b029C3017Eo03H610115Gs2H
  64Gs1H61071401Gs601H6302H6G602H61Gs7H61Gs2H61Ha1Gm1Gs1GaB5H61H82H41Gs1Gq1H61H91Gs1H61GsWg02H
  6214H6312H6401H630211H61Gs1H6214Gs1H6C-u03H6Ed019D00B0H6Ra01Gq1H41H81Gu2H0D9028zOk01H640aH6B
  002H6Cg02H6Ik019B5019En019r0iH6Bp03GsB5019Cv017c019Hf01H6102H61Gs202H6502H6101H6Bk019Hm019TZ
  g01qY107H67Gs2H6+d01GsH201GsEl05H6BUi01Gs101H6B801H6111Gs4019F501H61GsRt04H6M302H6Cg03GsC602
  Gs3H61Gs1H64GsBh01H61Gs1H61GsG0019B9019e019Bp01917C503H6Bg029Bu017Cc0199017Da01917Fi01719Cg0
  27g019o07H6305H6Gd0193017n01H6D301917Hr01917Du019Dm01917Dj019Id01917I20294017Es019Cj019i019C
  h019N5019I20171029Ch019N9029Szd051Br07H6BFp026TFc011FG602Go31301H25Go808Gs205H62Gsu04H6Ek03H
  6DNr07H610hH6207H6102H6105H6D401H6F007H6Ln01H6Bt04H6Ps02H81Gs1H6-007GsDd06H617+FVl0"

def classOf (c : Char) : Nat := (classTable.value? c.toNat).getD 0

/-! ### Syllables that are composed by rule -/

def syllableBase : Nat := 0xAC00

def syllableCount : Nat := 11172

def syllableParts? (c : Char) : Option (List Char) :=
  let n := c.toNat
  if syllableBase ≤ n ∧ n < syllableBase + syllableCount then
    let i := n - syllableBase
    let t := i % 28
    some ([Char.ofNat (0x1100 + i / 588), Char.ofNat (0x1161 + i % 588 / 28)] ++
      if t = 0 then [] else [Char.ofNat (0x11A7 + t)])
  else none

def joinSyllable? (a b : Char) : Option Char :=
  let m := a.toNat
  let n := b.toNat
  if 0x1100 ≤ m ∧ m < 0x1113 ∧ 0x1161 ≤ n ∧ n < 0x1176 then
    some (Char.ofNat (syllableBase + ((m - 0x1100) * 21 + (n - 0x1161)) * 28))
  else if syllableBase ≤ m ∧ m < syllableBase + syllableCount ∧ (m - syllableBase) % 28 = 0 ∧
      0x11A7 < n ∧ n < 0x11C3 then
    some (Char.ofNat (m + (n - 0x11A7)))
  else none

/-! ### Taking apart, ordering, putting together -/

/-- Takes a character apart as far as it goes; no chain of rules is longer than `fuel`. -/
def decomposeChar : Nat → Char → List Char
  | 0, c => [c]
  | k + 1, c => match syllableParts? c with
    | some l => l
    | none => match rules.find? (·.char == c) with
      | some r => decomposeChar k r.first ++ r.second.toList
      | none => [c]

/-- Puts a mark before those at the end that have a greater class; the text has its end first. -/
def insertMark (c : Char) : List Char → List Char
  | [] => [c]
  | d :: r => if classOf c < classOf d then d :: insertMark c r else c :: d :: r

/-- A text with the marks after each letter in the order of their classes. -/
def order (s : List Char) : List Char :=
  (s.foldl (fun r c => if classOf c = 0 then c :: r else insertMark c r) []).reverse

def compose? (a b : Char) : Option Char :=
  match joinSyllable? a b with
  | some c => some c
  | none => (rules.find? fun r => r.composes && r.first == a && r.second == some b).map (·.char)

/-- What has been put together so far: the text before the last letter, that letter if there is
one, and the marks that stayed apart from it; both lists have their ends first. -/
structure Composing where
  done : List Char := []
  letter : Option Char := none
  marks : List Char := []

/-- Puts one more character on. A mark joins the last letter unless a mark of its class or a
greater one stands between. -/
def Composing.push (s : Composing) (c : Char) : Composing :=
  let apart : Composing :=
    if classOf c = 0 then ⟨s.marks ++ s.letter.toList ++ s.done, some c, []⟩
    else { s with marks := c :: s.marks }
  match s.letter with
  | none => apart
  | some l =>
    let free := match s.marks with
      | [] => true
      | m :: _ => classOf m < classOf c
    if free then
      match compose? l c with
      | some d => { s with letter := some d }
      | none => apart
    else apart

def normalize (s : List Char) : List Char :=
  let s := (order (s.flatMap (decomposeChar 4))).foldl Composing.push {}
  (s.marks ++ s.letter.toList ++ s.done).reverse

end AppLinks.Unicode.Compose
