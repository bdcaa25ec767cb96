import AppLinks.Unicode.Runs

/-!
The mapping of characters in host names: what each character is kept as, replaced by, or
refused for.
-/

namespace AppLinks.Unicode.HostMapping

/-- For every code point: `0` if it is kept, `1` if it is dropped, `2` if it is refused. An odd
number from three on moves it to another character, and an even one from four on replaces it by
a text of `texts`. -/
def table : Runs := .ofString
  "C10qE3B50B021Q17014101J520111016202Q1181DAv201a1R11Jd101c1e1g10nE3107E3B10171017101710171017
  1017101710171017101710171017101710171017101710171017101710171017101710171017101i102k17101720
  1710171017102m17101710171017101o171017101710171017101710171017101710171017101710171017101710
  171017101710171017101710171017101P51710171017101BBh101wb171017101Zr17102Zn17201Jv1Zb1Zf17101
  Zn1Zv101wf1w717301wf1wn101wr1710171017101xb17101xb2017101xb17102x7171017101xf173017703q3s3u1
  71017101710171017101710171017201710171017101710171017101710171017203B017101M51H1171017101710
  171017101710171017101710171017101710171017101710171017101710171017101Q9101710171017101710171
  017101710171017701BKFf17101Ud1BKF32017101Yd1In1Iv171017101710171017D101CJ11Jd1CJ11CI51Hd1H91
  Gl1CI11CHtv01B21B41B61B81Ba1Bc201Pl1COl1CNt1CNd1JtCr02I1101G11Be1Oj9011B00171017101Xd1017102
  21Bg301DId1Oj42181Bi1Er1Cw13En121I3122Hv10hE3129E3B301B31Dp1D51Bl1p1B51Bt1Cp1017101710171017
  10171017101710171017101710171017101Gp1G11Ft101Hh1I11017101Gp17203Q9gK3B0E3Bg0171017101710171
  01710171017101710171017101710171017101710171017101790171017101710171017101710171017101710171
  0171017101710171017101710171017101710171017101710171017101710171017101Bv17101710171017101710
  17101720171017101710171017101710171017101710171017101710171017101710171017101710171017101710
  17101710171017101710171017101710171017101710171017101710171017101710171017101710171017101710
  171017101710171012B6G322Be01Bk30223012Bn082r04260h2m012Co01Bm1Bo1Bq1BsD4012Bg022Br022D50e2Br
  022Bh022f012s0221012b052B0072Cb012Dl01Bu1C01C21C41C61C81Ca1CcB401280222022m01270121032402290
  222022408210421Ce1Cg121Ci4022p022301260422022m0127012101Ck12101Cm122022101250422022303210721
  Co1Cq1Cs10121Cu72h0a2301290123012m012701220125022a0123012302210f24022c0727012301280222022m01
  270122012502290222022307230421D01D2125022i0a2201260323012403220121012203220323032c0425032301
  24022106210e2l052d0123012n012g0229012301240722012301220224022a072m0123012n012a01250229012301
  24072205230124022a01230c2d0123012Bj01230126042g022q0123012i032o01290121022703210426012101280
  62a02230c2Bi01D47042t0B52201210125012o0121012c01D6a022501210127012a0221D81Da20B02c015Bm01Dc4
  012401De401Dg401Di401Dkc01Dm3042201Do101Dq1Ds1Du1E01E2701E4h01E64012401E8401Ea401Ec401Eec01E
  g3012f012d0B52F00B6yM3121yM3521yM322Bc01E1D2021H80124022701210124022B90124022B10124022701210
  124022f012Bp0124022C3022B0032q062Cm0226B122U0012s032Cp072m092o092k0c2d012301220c2Bk021B8022a
  062a062b051a062Cp072Bb052C60a2v012c042c0421032Ba02250b2Bc042q062b032Bu022C1012t022b062a062e0
  22Be022c0k2Cd012F6082Bs032f032Bj01YJp1YJl1YIh2YI91YId1YHh1YEh1EJYf171052BbLY1223LY18082Bb052
  Bc01yZd1yIt1yZh102yZh1xKl8yZh101yZl1xD91yZp1yZl2yZh1yZd1yy92w+h1Ih1yyl2yyh1w+52w+11yyp101yyh
  1yyd1yAp1yyd1w-t2Hp1yyp2yyd1Hh1wzd1yyl1Gt3ZVd2ZT91y-51y+52yzt2ZWh1ZUt2ZUdd01ZHdB201xJ51zH51x
  J11yVp1xId1zH91xI91xI51xHp3xHh1Fh1xBd1xHh1El1xBh1xHd1xHl4xHh1xH92xG51yB92xFl1Th2xFp1zI53xFh1
  wAtC0017101710171017101710171017101710171017101710171017101710171017101710171017101710171017
  10171017101710171017101710171017101710171017101710171017101710171017101710171017101710171017
  10171017101710171017101710171017101710171017101710171017101710171017101710171017101710171017
  1017101710171017101710171017501Ei1H9201zXt10171017101710171017101710171017101710171017101710
  17101710171017101710171017101710171017101710171017101710171017101710171017101710171017101710
  17101710171017101710171017101710171017101710171017908B160226B122808B1808B160226B12280121B112
  1B1121B1121B1808B1101xYl101xYp101xYt101xZ1101xVl101xVp101xVt221Ek1Em1Eo1Eq1Es1Eu1F01F21Ek1Em
  1Eo1Eq1Es1Eu1F01F21F41F61F81Fa1Fc1Fe1Fg1Fi1F41F61F81Fa1Fc1Fe1Fg1Fi1Fk1Fm1Fo1Fq1Fs1Fu1G01G21F
  k1Fm1Fo1Fq1Fs1Fu1G01G2201G41G61G812101Ga2B11J91yBt1G61Gc1yAl1Gc1Ge1Gg1Gi1Gk1Gm12101Go1Kp1yDh
  1Kp1yDl1Gk1Gq1Gs1Gu301yId22202B11Mh1yFh121H01H21H4301yGd402B11O11yDp1t1H61Bi1-Rt221H81Ha1Hc1
  2101He1Q11yFl1Pp1yFl1Ha181Hg121-y11-y51-y91-yd1-yh1-yl1-yp1-yt1-z11-z51-z91120221015501Hic03
  210721BABt301Hk1Hm101Ho1Hq401Hs101Hu801I01I21I4d01I6701BAHt5152611BAI11BAB1226BAI11BAJt1BSv1
  BAHt2BAKl1BAC5aBAK11BALt1BQv1BAJt2BAMl121BAFt1BAFh1BAEd1BADd1+Hd1BAFl4BAFd1BAF92BAF132801I8p
  0e2B10f21Ia1Ic1BATt1Ie101Ig1Ii1+Vh101Ik2BAUd1BAUh1BAUl1BAUp1-z11BAUt1BAV11BAUp1BAUt101BAUt1I
  m203BAV51BAV91BAVd201Io1Iq1Is101BAV9101zLl101BAVp101BAXt1BAIp2BAZ9101BAZ92BAZd1Dj1BAYp1BAYl4
  xMl1BAw1101Iu1zPh1zR91zRd1zPt1w7401BAy52BAy92BAxt601J01J21J41J61J81Ja1Jc1Je1Jg1Ji1Jk1Jm1Jo1J
  q1Js1Ju1BA+t1K01K21K41BAzp1K61K81Ka1Kc1BA+51Ke1Kg1BBA12BBB91BBA91BBAt1K01K21K41BA-p1K61K81Ka
  1Kc1BBA51Ke1Kg1BBC12BBD91BBC93017501Ki2042Es01Kk1Km101Ko1KqHo02MxvHv0m2b0l29BEFt1Ks1Ku1L01L2
  1L41L61L81La1Lc1Le1Lg1Li1Lk1Lm1Lo1Lq1Ls1Lu1M01M21M41M61M81Ma1Mc1Me1Mg1Mi1Mk1Mm1Mok21Mq1Ms1Mu
  1N01N21N41N61N81Na1Nc1Ne1Ng1Ni1Nk1Nm1No1Nq1Ns1Nu1O01O21O41O61O81Oa1OcqBEKlqBENt1BEX9BJ101OeD
  701Og1Oi1OkD501OmEn022Ea0BgG3Bg017101BJ+t1Oyp1BJyt201710171017101BKDh1BJ-l1BKDt1BKDp10172017
  601BMC91BMAt2BKHt171017101710171017101710171017101710171017101710171017101710171017101710171
  01710171017101710171017101710171017101710171017101710171017101710171017101710171017101710171
  01710171017101710171017101710178017101740171052Bd01210521022Bo0721Bp10e2o0927012701270127012
  7012701270127012Du0B22q012401BzFrCj01DQVjc21-A31-Ev1-Gj1-Hj1-Kn1-Q31-Qr1-T71-Wb1BCGr1BCLf1BC
  M31BCOr1BCR71BCTn1BCw71BCyn1BCzv1BDR71BDyr1BEA71BEAn1BEEb1BEFb1BEIj1BEK31BEN31BETf1BEVj1BEYr
  1BHX71BIA31BJZf1BJy71BJz31BJ+b1BKAf1BKJr1BMFb1BML71BMw31BMyr1BM-31BNBn1BNIb1BNIj1BOVn1BOWr1B
  OY71BOZn1BPI31BPIv1BPJf1BPXv1BPZ31BPwj1BPxf1BQCv1BQEv1BQH31BQQv1BSZf1BS-31BTBj1BVzv1BV+f1BWI
  n1BWKj1BWM31BWOj1BWTb1BWTr1BXV31BXXv1BXxr1Bxwn1ByCr1ByFj1ByMn1ByPj1ByQj1ByRb1ByXn1ByY71Byy31
  CBCr1CCwj1CCxv1CCyf1CCyr1CCzn1CC-r1CC-v1CDJv1CEEr1CEFb1CFPj1CFQn1CFWr1CFXj1CFYj1CFZf1CGEn1CG
  Ff1CHBr1CHCj1CHIj1CHKj1CHQb1CINr1CIOj1CIQj1CJZb1CKIv1CKJj1CLA71CLKv1CLQj1CM-n1CNQ71CPXr1CPx3
  1CQC31CQIb1CQQn1CQRv1CQSj1CQWj1CQ-v1CRB31CSM71CSMv1CSNv1CSOv1CSQr1CSSj1CSSv1CSyn1CSz31CSzn1C
  WY71CWxr1CYWb1CYXn1CYwf1CZzn1CZ-71CwHv1CwNj1CyUb1CyW31CyXr1Cyy31CzAj1CzZb1Czwn1C+Cv1C-Br1C-F
  j1C--j1DAC31DACj1DAzv1DBUr1DCEb1DCEv1DCFf1DFw31DFx31DGOf1DHBj1DHBr1DHHj1DHUj1DHW31DHWf1DHX71
  DIDb1DIHf1DII31DIJn1DI+f1DJEn1DJF31DJxr1DJy31DJ+b1DKzn1DLDj1DLEb1DLMv1DLO31DLOb1DLPf1DLT31DN
  Eb1DOW71DOXb1DOxv1DO+j1DO-f1DPAj1DPAv1DPFr1DPG71DPI71DPIn1DPK71DPNf1DPP71DPQ31DPXb1DPZ31DPZf
  Ba21BPy1101BPwhBj01Eh101BDB72BDBf5012Cm022201Oo1Oq201OsCv01Ou52Bb0122BAG51-R51BAG92-R53BAGh6
  -R91BAEp3BAHd1BAEdaBAHhl-zp112BAK52-U11-Tl1-Th1-T11-Sl1-Sh1BAK91-S91-S52BAKh1BAKd2BAK91BAJt1
  BAJp5BAJl1BAJd1BAJ11BAHt1BAH51BAGl2-S53BAFl2BAAd1BAA52--51--11-zt1-zl12201yNr1y-71yOn1BFIr1y
  Oj1ySr1yOf1CDT71yXv1yPr1yMn1BHRj1BFSb1zDfC60a2g01P01P21P41P61P81Pa1Pc1Pe1Pg1Pi1Pk1Pm1Po1Pq1P
  s1Pu1Q01Q21Q41Q61Q81Qa1Qc1Qe1Qg1Qi1Qk1Qm1Qo1Qq1Qs121Qu1R01R21R41R61R81Ra1Rc1Re1Rg1Ri1Rk1Rm1R
  o1Rq1Rs1Ru1S01S21S41S61S81Sa1Sc1Se1Sg1Si1Sk1Sm1So1Sq1Ss1Su1T01T21T41BDBf1BMGv1BTI71CJJ3801T6
  1T81Ta1Tc1Te1Tg1Ti1Tk1Tm1To1Tq1Ts1Tu1U01U21U41BBM12BBLt3BBLp1BBLl2BBLh5BBLd1DZSb1D+F71EAOj1E
  FBf1EHKr1EJU71EOH31ESZv1EVDb1EZW71Ex-j1E+Iv1FASb1FCxn1U61U81EUGb101xQ31yBf1xQv1BEL31yC31+z31
  xPn1+yj1xwn1BAX31BUPr1Bzy31BZV31BUTf1C-If1BES31BTKn1BVT71BUOv1CGVf1BBP71B-yj1CwBf1CGYr1BADj1
  CHHv1CCTn1BGx31CzZn1+Rn1BAwb1BwJ71DFMn1yO31++v1BYY31xMr1xR31xMn1BLHv1BBJf1BASb1BIzn1BIXf1CEG
  v1yKj1CwD71BAUn1BGNj1Ua1Uc1Ue1Ug1Ui1Uk1Um1Uo1Uq1Us1Uu1V01V21V41V61V81Va1Vc1Ve1Vg1Vi1Vk1Vm1Vo
  1Vq1Vs1Vu1W01W21W41W61CFp1CFl1CFh1CFd2CF91CF51CF11CEt1CEp1CEl1CEh1CEd1CE91CE51CE11CDt1CDl1CD
  h1CDd6CD91CD11CCp1CCh1CC95CC11CBt1CBp6CBl4CBh1W81Wa1Wc1We1Wg1Wi1Wk1Wm1Wo1Wq1Ws1Wu1X01X21X41X
  61X81Xa1Xc1Xe1Xg1Xi1Xk1Xm1Xo1Xq1Xs1Xu1Y01Y21Y41Y61Y81Ya1Yc1Ye1Yg1Yi1Yk1Ym1Yo1Yq1Ys1Yu1Z01Z21
  Z41Z61Z81Za1Zc1Ze1Zg1Zi1Zk1Zm1Zo1Zq1Zs1Zu1w01w21w41w61w81wa1wc1we1wg1wi1wk1wm1wo1wq1ws1wu1x0
  1x21x41x61x81xa1xc1xe1xg1xi1xk1xm1xo1xq1xs1xu1y01y21y41y61y81ya1yc1ye1yg1yi1yk1ym1yo1yq1ys1y
  u1z01z21z41z61z81za1zc1ze1zg1zi1zk1zm1zo1zq1zs1zu1+01+21+41+61+81+a1+c1+e1+g1+i1+k1+m1+o1+q1
  +s1+u1-01-21-41-61-81-a1-c1-e1-g1-i1-k1-m1-o1-q1-s1-u1BA01BA21BA41BA61BA81BAa1BAc1BAe1BAg1BA
  i1BAk1BAm1BAo1BAq1+a1BAs1BAu1BB01BB21BB41BB61BB81BBa1BBc1BBe1BBg1BBi1BBk1BBm1BBo1BBm1BBq1BBs
  1BBu1BC01BC21BC01BC41BC6121BC81BCa1BCc1BCe121BCg1BCi1BCk1BCm1BCo1BCq1BA61BCs1BCu1BD01BD21BD4
  1+m1BD61BD81BDa121BDc1BDe1BDg1BDi1BDk1BDm1BDo1BDq1BDs1BDu1BE01BE21BE41BE61BE81BEa1BEc1BEe1BE
  g1BEi1BEk1BEm1BEo1BEq1BEs1BEu1BF01BF21BF41BF61BF81BFa1BFc1BFe1BFg1BFi1BFk1BFm1BFoyEd032Bn092
  Ks0k2171017101710171017101710171017101710171017101710171017101710171017101710171017101710171
  017j0171017101710171017101710171017101710171017101710171017101FCK91FCK5Cq082B201710171017101
  71017101710173017101710171017101710171017101710171017101710171017101710171017101710171017101
  710171017101710171017101710171017101710171017101580171017101EKAh1710171017101710174017101FFF
  1201710173017101710171017101710171017101710171017101FFIh1FFJt1FFJd1FFI51FFIh101FFC91FFF91FFC
  l1DU3171017101710171017101710171017101G11FFId1EKH1171017101FFMt17101710171017101710171017101
  7101FGI5k21FHPp1FHRt1FHRl1FHQd17201FGw51FGUpBj032a062Bo082C6082c062Dk0b2u032Ce012b042B1012Bn
  092e022a022D70o2s0a260226022609270127012Bc01EGl1Ep1FI+d1Bl901FIxh2042CgEXw1Be022a062Kz40c2n0
  42Bh0II421DMX11ESBl1DKH11DMHd1EKGd1FKwd1FFE51CZNd1CZNh1E-X11DHH51FDQh1E-Yh1EXCt1ECUl1DZR91DS
  w51DRKt1DQD91DIQh1EPC91EL-91EIHl1EFH51DUxd1DHVt1C-F51FKT51FFUt1EOD51EHAd1DS+91CxA91Exw51EJGt
  1DTKp1DPY11EWLh1DXJp1DRB11EwLp1ESC91ELY11EGFt1DILp1FJUt1FHOt1FGK51EUNh1EOLp1EHE91ECJh1DZGd1D
  TFt1DSx91DLJ11DCAp1CzZ91CxI11EAVt1D-Xl1DxTl1DVOl1DGHd1CwY51DONd1FAMd1EwHt1Dyyh1DYYt1EGyh1EAP
  l1DMQp1DCK91FAO91Eyz51EPH51ELOd1EKHt1DyE11DxD51DDAp1FGQ11DYZ11FHP11FHR51D-H91DxT51DVMt1DCyh1
  DNx91EWRh1EPL91DOLt1FLEl1EzP11EZJp1EFx91ED+91FGJh1EAN51FJUp1EZXl1FLL91EMTh1ET+51DyJ11FFV11FB
  Bp1ECNh1DVEl1DOYl1ENWp1DJY51EMz91EWOl1DWRt1EVwl1EEC51FKZ51FIBt1FHW11EQ-51DySh1DXBl1DOVd1DHVt
  1FGR91FFHp1FABp1EwSp1ETXp1EJQp1EALd1DDx51C-Dl1Cw+51CwXd1FGzt1ESYl1EOCl1DKFd1ExD91EX-t1EXS11E
  U+t1EKNt1EIJ91EFBd1D-Zd1DxU91DZF11DKO91DUVd1DJOt1DGK51FHQl1FG-91FEy51EIwt1DQxp1DO+t1Ewx51EZV
  p1EWF51EN+t1DzN11EGG91FKYh1FCW11EzYd1Ex+51EZS11EF-d1EFIl1DwCl1DZN91DHPl1DCXh1DCNd1DBTh1FKF91
  EAB11DIAd1DDA11EYx11FLGh1FIy51EzZp1EzPp1EUEl1EPXl1EH+91EDPt1DUYp1DJIt1CwGt1ETHl1DDT11FHHp1ES
  Jl1ERwp1EMR51ELFt1EFYd1EEOh1EBMd1DyXt1DBO91FIMh1EXUh1DDLd1FJV51EyXh1ELzh1DKVl1EwJl1EYSl1ERYd
  1EGKh1DDKp1FHWh1FFZt1EzP91ETZl1ESSd1ERH91EM-p1EFxp1EEAd1DwNl1DRD11DRAt1DIDl1DDB11FGVh1ELG91F
  Fw11EIDp1EFKt1DT+p1DDJp1CzTd1CxKh1ESLl1EMF91DYBp1D-Fh1D+x11DzMt1EHH91EJM91DOUh1FLHl1DWZ11FHY
  l1FH-51ExLd1EXFt1DzFl1E+Pt1EMyt1ETK91DKZh1DRXh1DDXh1DQPt1ExH11FIZh1FEJl201FBWp101ETTp201FIGt
  1EGzh1EDJl1EAxh1EAXd1EAWl1EARh1DCYp1DzLt1DwM5101DUBp101DPF9201DJzl1DJF5301DBHd1DBFt1DBAh1CyP
  51DJK11DDP11FKQ91FJJ91FIyl1FHN91FHK11FGyh1FET51FEG51FDw11FB-51FBS91Ezwt1EzZp1EZV51EYwp1EYW51
  EYJp1EU+91EUM11ETW91ERXt1EMZp1EMFh1ELEl1EIx91EIDp1EGF11EBX91EBBp1EBAh1EBAp1EA-t1EA-91EA+h2EA
  Yl1EACh1D-wh1D+Sp1DyMd1DyJt1DyD11Dwz11DwKp1DYNt1DXyh1DXyl1DWB11DRK11DQZd1DPM51DPF91DNS51DNLl
  1DKW11DKFt1DDQl1DCN91DCFt1EZ+p1KIQb1DYKl221FMJ91FIXh1FJB91FK+d1FJFt1FI+l1FHVt1FHPl1FExd1FFEh
  1FEy51FET51FCE91FBZ91FBH91FBFd1FADp1E-L51ExW11ExV91ExDd1Ewx11EZVp1EZH51EZQ11EY-d1EZF91EYT51E
  YL11EWZ51EWO91EWHl1EVH91EUDl1ETPd1ETP11ETHp1EPDh1EOxh1ENKp1ELXl1ELZp1ELP11EKPl1EJFp1EC+p1EIN
  51EH+11EHOp1EGG11EFTh1EFN11EEQt1EEQp1EDxh1EDZh1EDWh1EDLt1EDN91EBxt1D--d1D+zl1D+Gd1DzKh1DyXh1
  DxOd1DwVl1DXM51DWYl1DTHh1DROl1DRG51DRE91DP-91DPY91DP+11DPXd1DPXt1DPw51DPQp1DPGp1DNX51DLR91DK
  K51DJFd1DIJt1DEJ91DDyh1DDO91DCzp1DCZd1DCY11DCS51C-Xd1CxG91JNPf1JNOj1JZAj1F-Gl1FwXd1FwTd1KXOj
  1LB-b1MD-j1CxSl1CxJdB621BFq1BFs1BFu1BG01BG22BG4c21BG61BG81BGa1BGc1BGe521BGg101BGi1HVHp1HVK52
  HVJt3HVJ51HVHt1HVHp1Hw-p1BGk1BGm1BGo1BGq1BGs1BGu1BH01BH21BH41BH61BH81BHa1BHc121BHe1BHg1BHi1B
  Hk1BHm121BHo121BHq1BHs121BHu1BI0121BI21BI41BI61BI81BIa1BIc1BIe1BIg1BIi1BIk1HUxt1HUy11HUwt1HU
  x11HUx51HUx91HUx11HUx51HUx91HUxd1HUx91HUxd1HUxh1HUxl1HUyh1HUyl1HUyp1HUyt1HUyd1HUyh1HUyl1HUyp
  1HUzl1HUzp1HUzt1HU+11HUYp1HUYt1HUZ11HUZ51HUZ11HUZ51HUZ91HUZd1HUzp1HUzt1HU+11HU+51HU+d1HU+h1H
  U+l1HU+p1HU+h1HU+l1HU+p2HU+t1HU-11HU-51HU-91HU+l1HU+p1HU-11HU-51HU-11HU-51HVA11HVA51HU+91HU+
  d1HU-d1HU-h1HUyl1HUyp1HUyt1HUz11HUyd1HUyh1HUyl1HUyp1HUyd1HUyh1HUyl1HUyp1HUz51HUz91HUzd1HUzh1
  HUyh2HUyl1HUyp1HUyt1HUz11HUyh2HUyl1HUyp1HUyt1HUz11HUzh1HUzl1HUzp1HUzt1HUxh2HUxl1HUxpB101HVEp
  1HVEt1HVF11HVF51HVC11HVC51HVCd1HVCh1HVCd1HVCh1Bq1HVCd1HVCh1HVDd1HVDh1HVD51HVD91HVCh1HVCl1HVC
  p1HVCt1HVTt1HVU12BIm2BIo2BIq2BIs2BIu2BJ03BJ23BJ41HVG11HVG51HVG91HVGd1BJ61BJ81BJa1BJ41BJc1BJe
  1BJg1BJi1BJk1BJm1BJo1BJq1BJs1BJu1BK01BK21BK41BK61BK81BKa1BKc1BKe1BKg1BKi1BKk1BKm1BKo1BKq1BKs
  1BKu1BL01BL21BL41BL61BL81BLa1BLc1BLe1BLg1BLi1BLk1BLm1BLo1BLq1BLs1BLu1BM01BM21BM41BM61BM81BMa
  1BMc1BMe1BMg1BMi1BMk1BMm1BMo1BMq1BMs1BMu1BN01BN21BN41BN61BN81BNa1BNc1BNe1BNg1BNi1BNk1BNm1BNo
  1BNq1BNs1BNu1BO01BO21BO41BO61BO81BOa1BOc1BOe1BOg1BOi1BOk1BOm1BOo1BOq1BOs1BOu1BP01BP21BP41BP6
  1BP81BPa1BPc1BPe1BJa1BPg1BJ41BJc1BPi1BPk1BJk1BPm1BJm1BJo1BPo1BPq1BK01BPs1BK21BK41BPu1BQ01BK8
  1BQ21BKa1BKc1BM61BM81BMe1BMg1BMi1BMq1BMs1BMu1BN01BN81BNa1BNc1BQ41BNk1BQ61BQ81BO01BQa1BO21BO4
  1BOu1BQc1BQe1BOk1BQg1BOm1BOo1BJ61BJ81BQi1BJa1BQk1BJe1BJg1BJi1BJk1BQm1BJq1BJs1BJu1BK01BQo1BK8
  1BKe1BKg1BKi1BKk1BKm1BKq1BKs1BKu1BL01BL21BL41BQq1BL61BL81BLa1BLc1BLe1BLg1BLk1BLm1BLo1BLq1BLs
  1BLu1BM01BM21BM41BMa1BMc1BMk1BMm1BMo1BMq1BMs1BN21BN41BN61BN81BQs1BNe1BNg1BNi1BNk1BNq1BNs1BNu
  1BO01BQu1BO61BO81BR01BOe1BOg1BOi1BOk1BR21BJa1BQk1BJk1BQm1BK01BQo1BK81BR41BL21BR61BR81BRa1BMq
  1BMs1BN81BO01BQu1BOk1BR21BRc1BRe1BRg1BRi1BRk1BRm1BRo1BRq1BRs1BRu1BS01BS21BS41BS61BS81BSa1BSc
  1BSe1BSg1BSi1BSk1BSm1BSo1BSq1BSs1BSu1BR81BT01BT21BT41BT61BRi1BRk1BRm1BRo1BRq1BRs1BRu1BS01BS2
  1BS41BS61BS81BSa1BSc1BSe1BSg1BSi1BSk1BSm1BSo1BSq1BSs1BSu1BR81BT01BT21BT41BT61BSq1BSs1BSu1BR8
  1BR61BRa1BLi1BKs1BKu1BL01BSq1BSs1BSu1BLi1BLk2BT8i01BTa2BTc1BTe1BTg1BTi1BTk1BTm2BTo1BTq1BTs1B
  Tu1BU01BU22BU41BU62BU82BUa1BUc2BUe1BUg2BUi2BUk1BUm2BUo2BUq1BUs1BUu1BV02BV21BV41BV61BV81BVa2B
  Vc1BVe1BVg1BVi1BVk1BVm2BVo2BVq2BVs1BVu1BW01BW21BW41BW61BW81BWa201BWc1BWe1BWg1BWi1BWk2BWm1BWo
  1BWq1BWs2BWu1BX01BX21BX41BX61BX81BXa1BXc1BXe1BXg1BXi1BXk1BXm1BXo1BXq1BXs1BXu1BY01BY21BY41BY6
  1BY81BYa1BVe1BVi1BYc1BYe1BYg1BYi1BYk1BYm1BYk1BYg1BYo1BYq1BYs1BYu1BZ01BYm1BV01BUc1BZ21BZ480B0
  21BZ61BZ81BZa1BZc1BZe1BZg1BZi1BZk1BZm1BZo1BZq1BZs1BZu30g11Hzyh1GOC1122Hzx51Hz+h1Hzwt2GOA572g
  0121G+Dl1G+Dt1Hzwh1Hzwl2H+Bl1HzXh1HzXd2GOEl2GOFd2GOGd2GOGt4GOGl201Hzzh1Hzzd4Hu1Hzzp1Hzzt1Hz+
  11H+Eh1GOK1221H+D51H+Dd1H+Ct1H+Gp1G+Ih2H+G51Hzy11Hzxt2GOJ51H+Hh1H+H92H+Gt1H+Gp1H+F11H+Et1H+F
  5121H+Bh2H+Il1H+Fd421Bw01Bw21Bw4101Bw6121Bw81Bwa1Bwc1Bwe1Bwg1Bwi1Bwk1Bwm1Bwo1Bwq2HYLt2HYM12H
  YM52HYM92HYMd1HYMh1HYMl2HYMp2HYMt1HYN11HYN52HYN92HYNd1HYNh1HYNl2HYNp1HYNt1HYO12HYO51HYO91HYO
  d2HYOh1HYOl1HYOp2HYOt1HYP11HYP52HYP92HYPd2HYPh2HYPl2HYPp1HYPt1HYQ12HYQ51HYQ91HYQd2HYQh1HYQl1
  HYQp2HYQt1HYR11HYR52HYR91HYRd1HYRh2HYRl1HYRp1HYRt2HYS11HYS51HYS92HYSd1HYSh1HYSl1HYSp1HYS11HY
  S51HYS92HYSd1HYSh1HYSl2HYSp1HYSt1HYT12HYT51HYT91HYTd2HYTh1HYTl1HYTp2HYTt1HYU11HYU52HYU91HYUd
  1HYUh2HYUl2HYUp2HYUt1HYV11HYV51HYV92Bws2Bwu2Bx02Bx2221112B0H+y1qH+Y1B4H+y12GVx91H-Gd2GPKp1GP
  Md1GON91GOOh1GOYp1GOYl1GOYh1GOYd1GOY91GOR51GOR11GOQt1GOVh1GOOh1GOZt1GOZp1GOZl1GOZh2GOZd1GOZ9
  1GOZ51GOZ11GOYt1GOYp1GOYl1GOYh1GOYd1GOY91GOY51GOY11GOXp1GOXl1GOXh6GOXd1GOX51GOWt1GOWl1GOWd5G
  OW51GOW11GOVt6GOVp1GOVl1GOV92GPAl112HOU51HN-51HOU92HN-53HOUh6HN-91HOSp3HOVd1HOSdaHOVh326HOM5
  226HOMd226HOMl223HOMt322H-Hp1H-Gp161H-Hp1H-I11G-Hl121Gwyp4G+L51GwJl1GwEdh2c012q012j0122012f0
  22e0B22Dr0523042Bd032Co012d03210Bf2Be0E22t032Bh0f2s042B4092u052Bb052u012B5042e0Ba2B8F3Dm022a
  062B4F342B4042B8082Bk0b210bEv12fEv127Ev122Ev12b012f01270122032Bk0c2Jn092m0a280o2102IEW51IGTl
  1IEzd1IFG9121IEyh1CyE91IEyh1IEyp2IFGl1HJ-h1IFGp1IFG51IEyt1IFFl1IFG11IFGd1IE-51IGNp1IE-91IFG1
  1IFCh2IEzt1IFFt1GXN31DABt1IFG11GXMr1IFC91GXMn1IGV92IFFl1IHGh1IFFh1GXM72IFFd1IFF91IFAd1IFAp1C
  yIp1IFAt1IFEt1GxHt121IFEd2IFC91IFDl3IF+p1GXK71GXMjC5260221012Bc01220321022n012C808290Bg2j012
  2052B1032r052r0B62Bo042k022Bi012205280123012t0223042a0729072C00B02B7042c092Bm032t022r052q072
  40c270Cg2C90Bn2BjI3d2Bj072Be082a062g0mE332t08220Gg2v012Ba012302220g2608290B12Be082Ba0m2q0B62
  s0k2n092Ce042B4092Bu01250d2p072a062Bl012i082B7092D0012k0b2i012Bf0Bu2701210124012f012b062Br05
  2a062401280222022m012701220125012a02220223022106210527022703250b2a01210221012B6012a012102210
  124012a012208220t2Cs01250u2C8082a0F62Bm022B60B22C50b2a062d0j2Bq062a062k0s2r022f042n0Fp2Bs0D4
  2B0E3Bj0c28022102280122012u0122022c092a0C628022Be022b0r2C8082Cj0d2C9072a0Cm280Co2B20e2a06290
  12Bd012e0a2t032B0022m012e0C9270122012Bc032101220129082a06260122012B501220126072a062Bc042a0Hm
  2p072h012B9032t0Cl210f2Bi0d2yr0D62Df01250b2G40CSc2D30d2BBg0g2m0a2Dyr052S70GVp2Bq0BW62Rp072v0
  12a042Ch012a062u02260a2C60a2a0127012l052j0Ng2Bq0G62B0E3Br052pDf22p0Bc2Cb042Bp072h0C0250b2709
  2HGm0B92B00D12Dj0IPt2401270122012J30f210t2302210e24082Mc0CI42Db052d0329072a0224041Dws2Gm0qOM
  OlaOMY13032Nk062n0f2h0f2Be022n092Dk0Bs2Hm0a2B7022Bl01Bx41Bx61Bx81Bxa1Bxc1Bxe1Bxge081C001Bxi1
  Bxk1Bxm1Bxo1Bxq1BxsBa0l2C60Dq2k0c2k0c2Cn092p0E72qOTTtqOTX5qOTwd7OTzl12iOTzlqOUAtqOUE51OUHd12
  2OUHd221OUHd222OUHd224OUHd128OUHd4OUKl121OUKl127OUKl12bOUKlqOUNtqOUR52OUUd124OUUd228OUUd127O
  UUd12qOUXl2OUwt124OUwt125OUwt121OUwt327OUwt12qOU+5qOVBdqOVElqOVHtqOVL5qOVOdqOVRlqOVUtqOVY5qO
  VxdqOV+lqOWBtqOWF51OVOd1OUNp22hOS+t1OTA57OS+t1NUX9hOTC51OTC17OTC51NUx51OTEt1OTEl1OTEh1OTD51O
  TDt1OTE5hOTG51OTHd7OTG51NU+hhOTJd1OTJ97OTJd1NVCd1OTM51OTLt1OTLp1OTKd1OTL51OTLdhOTNd1OTOl7OTN
  d1NVFphOTQl1OTQh7OTQl1NVJl1OTTd1OTT51OTT11OTRl1OTSd1OTSlhOTUl1OTVt7OTUl1NVN1hOTXt1OTXp7OTXt1
  NVQt1OTwl1OTwd1OTw91OTYt1OTZl1OTZthOTxt1OTz57OTxt1NVU9hOT-51OT-17OT-51NVY51OUBt1OUBl1OUBh1OU
  A51OUAt1OUB51OTzl1OTzp22aOXTpaOXV1aOXW9aOXXhaOXYpUc0f25012f0BCg2v06260Gl27012h02270122012505
  29OyA13Ox-tbOx-p1Ox-h2Ox-d1JZY51OxO91Ox+p1Ox+l1OxMl1OxU11OxQ59OyE52OyE12OyDp1OyDl6OyDh2OyDd1
  Oxwp1OyC91OyCh1OyBd1OxY11JwDd1OxXhB1210Dg2Bd032e022a04220K02v0h2Bq05210Og2Ba0Gm2Bb04210G02v0
  12m08220H02701240122012f012G5022g0B92B2EbBa042a04220Yh2C40Cc2Bt0G222PHx51PHwp1PHwh121PHXl1PH
  wh1PHx91PHw51PHXt4PHYt1PHxd1PHwp1PHZt1PHxh1PHw11PHy91PHy12PHzd1PHz51PHz11PHyd1PHy91PHy51PHVp
  1PHMd1PHPl1PHW1121PH-51PH+p121PHxl221PH-9121PHxt4PHyt1PH-d1PH+p1PHzt1PH-h1PH+1121PIA12PIBd1P
  IB5121PIAd121PIA5621PICp421PID9121PH-t121PIAt121PIAt1PIDd1PICp121PIDh1PIC1121PIE1221PIF5121P
  IEd121PIE5121PHUd121PH+1121PIH51PIGp121PIDl221PIH91PIG51PIDt1PIEt122PIEt1PIHd1PIGp1PIFt1PIHh
  1PIG1121PII12PIJd1PIJ5121PIId1PII91PII51PIBp121PHxl122PIL51PIKp1PIKh2PIHl1PIKh1PIL91PIK51PIH
  t123PIIt1PILd1PIKp1PIJt1PILh1PIK11PIM91PIM12PINd1PIN51PIN11PIMd1PIM91PIM5521PIP51PIOp1PIOh12
  1PILl1PIOh1PIP91PIO51PILt123PIMt1PIPd1PIOp1PINt1PIPh1PIO11PIQ91PIQ12PIRd1PIR51PIR11PIQd1PIQ9
  1PIQ5Bk220Ie2Bc042D40c2f022f012f012B50b21Bxu1By01By21By41By61By81Bya1Byc1Bye1Byg501Mq1Ms1Mu1
  N01N21N41N61N81Na1Nc1Ne1Ng1Ni1Nk1Nm1No1Nq1Ns1Nu1O01O21O41O61O81Oa1Oc1Byi1PQZ11PQX91BCc1Byk10
  qPQZt1Bym1BBm1Byo1Byq1Bys1Byuq01Bz01Bz21Bz4B301Bz6t0Bo2q01Bz81Bza1OBJld21MPYl1MWX91M+Ip1OBJh
  1NDR11MY-d1LIGd1MYzp1NDOh1ML-51MA-51MMQ91M-Zt1MSS51NAS51MMNt1NAAd1LUxt1LzAd1LFP91MZGh1Mzzh1M
  DC91MPS91MOwd1NEF51NEE51LBy51MUIp1NEA11M+Hd1MPF11LEY11MPxp1LYW51LXX51M+Fh1MDWl1MLFl1MLFt1LzA
  l1M-Yt1MyQh1LAzp421Bzc1Bze1Bzg1Bzi1Bzk1Bzm1Bzo1Bzq1Bzs721MSX51M+M9e260Eq2+p032h032d032Gq062c
  04210f2c042Bo082a062B8082u022c04220e290B72Ko082e022d032b032Bp0121042g022c042a072Ej012Cs0aPxY
  110BA52BJX00B02EIu022FUe022HJh0f2Te0CN221VJYd1VJZ51VJY51HWy51VIUh1VIKt1VIJd1VIAl1VHRp1VHO11V
  HEd1VHHh1WDNp1HRwd1VGY51VGXd1VGVh1VGT91HS+p1WDL91VGVl1VGR11HSZd1VGQ11VGOh1VJJl1VGNp1VGMp1DGH
  l1VGF11VGDd1WDI11VFyl1VFxd1VFW11VFVh1WDBt1VFLp1VFLl1VFId1VFFp2VFEh1VFCh1VEyd1VExh1VEwh1VEXh1
  VEWd1VEW91VEWd1VEWh1HOB11UHYl1VENh1VEL11HMwl1VEJp1VEJ51VEGl1VDTp1VEAl1VD+p1VDwt1VDTp1VDJd1VD
  G91VC+11VCy51VCY51VCY91VCVp1VCTl1VCSp1VCR11VBGl1VCIp1VBGp1VB-l1VBxd1VGJ51U-Md1VAQh1VALt1VAIt
  1VAZ91VAEh1VAEp1U-Vh1HDOl1U-N11U-Mh1U-Kp1U-Id1U-Hh1U+-l1HBX11HBOt1U+Op1U+J11U+Hl1U+Rl1U+A11W
  BP51WBNh1UzM51UzFh1UzFl1G+Uh1UyV91UySp1UyR11UyPl1GzL51UyOd1UyNl1UZE51UyKd1WA+l1UyCt1UyB91UxX
  51Uxzl1GwSt1UxH51GwSt1UxC11UxCh1UxAh2UwU11WAKh1UwQt1UwLl1UwJ51UwDp1WAEp1GXAp1WABp1UZxd1UZx51
  UZwt1UZYh1CU-l1UZS91GVM11GVM51TWS91UZO91UZOd1V-Zt1GFxt1EWXp1UZGt1UZFt1V-X11UZA91UYw11UYYt1UY
  Up1UYDt1V-Mt1V-Qp1UYBt1GRw11UXxp1UXLp1UXLd1UXL91UXLl1UXG11UXDl1UW-91UXB51UW-t1UWw51UWXp1UWXd
  1UWU91UWT11UWKt1UWAh1UVy91UVMt1GNVh1UVPh1UVXp1UVKd1UVH51UUx51GMZl1UUTl1UU-d1UVD11V+Sh1UUL91U
  UIp1UUF11UUJt1V+Ld1UTP51UTLl1GIY11USz11URwh1USQh1VzWl1USHp1VzZ11Vzzl1VHI11VHHp1URwh1USH51TYF
  51VU-p1URY51URXp1URX51URPl1URR51GFD91VzSl1UQyl1URLd1UQRt1UQLl1GEOp1UQKp1UQYp1UPw91VzJ91UPUp1
  UPIp1UPA11UOId1GCJ51UOC91Vywp1UNZp1GAJ51UNTl1VyUh1UNQ51UNKl2UNHd1F+N91Gxzl1Fz-t1UMVh1FyHt1UM
  Hl1UMG11UMSt1ULz51ULY91ULR91ULY51ULT91ULRh1ULQ11Fxz11ULwd1UKx51UKTd1Vxwt1UKI11UKIl1FwHh1ULCl
  1UJU51FZW91FZQd1UJJh1UIx91UI+p1UI-91VxQ11UIZl1UITd1UIU91UINl1HT+p1UHwt1FWX91UHQ91FVOh1UG-11U
  Gzh1UGw91FTDd1UGUh1UGS11FR+51FRCd1UFVp1UFTp1VwPp1UFQp1VwOh1VwOl1UEyt1UEwd1UEXt1UEVh1UEN11VwD
  11UEC11FM-t1UD-11FMUl1UDZ11GXT91UDF91FJT91FJQh1FI-51VZI91VZGt1UCJh1FIJp1FIK11FIF91FIC52UCEt1
  UCF11UB-p1VZC11UBXt1VZAl1VYWp1FFG11UBA11UAYd1UAQh1VYNp1FDFh1T--l1FCX91FCS11T-Yt1T-Nh1VYF51T-
  D51T-C11T-Bh1E-y11E+Wp1E+Wt1T+O51VXLp1EzWp1TzTh1TzT91VXHl1Eyyl1TySh1VWYt1TyQ11TyQp1TyN91EZyl
  1TyB51VWNh1TxUt1TxNl1TxFd1VWHl1EXJ91EXFh1VWDd1EWTh1TZ-h1EWH51TZyd1TZPt1TZOl1EUU51EUL51TZDl1E
  Twp1TZBt1GGE51VVVh1TYw11TYQ11VVP51TYIt1U+w51ERy11ERwd1GF+p1GFzp1TXR91TXR11TJzt1VVEd1TW-p1TXA
  l1TW+h1VGxt1TWy91TWy51TWx11TWW11EOLd1TWWd1TWPh1TWGt1TVzp1TWP51TVy11TVWt1TVJ11TWJl1TVwt1TVwp1
  TVYt1ENNp1EMH91EMw51VUPh1TUWt1TUWp1TUSh1EFy51TUJ11EKQ51VUK51VUJp1EJ-t1EIxt1VUIt1TTMd1TTL11TT
  Jp1TTJl1TTBp1TTG11TSVd1TSx11TSI91TSSh1TSK91TSH11VTz11TRxt1TRY11VTZ51TRMd1TRM51EDLp1TQzt1TQz5
  1VTSd1TQZt1WFBt1EBDl1EAMp1VTBt1VTAt1TPFt1TOyd1TOIt1TNPl1DzFd1TNF51TNCh1TMXd1TMM11DwV51HRwl1T
  MBt1TMDt1TLzh1HQ-t1TLB91TKUt1DUBp1DT+h1TJJp1TI+91TIwd1DSWt1TIZd1THVt2THC51THNp1TF+91TFwt1DN+
  d1TEMd1VQL91TEH51DMP91VQBh1TDG11UyI91TCw91DIW51DHxl1VPR91VPQd1TCD91DF+51VPJ91DFMt1TB+d1TB+h1
  TBwt1DEJd1TBE11VOw11TAxd1TALp1TAIh1TAB51VOH91C+x51S+-11SzZd1SzBt1VNHt1VNE51SyV11CZI91VND51CZ
  Bl1CYAl1CXQd1SxL91VMY11SxDp1SxD91SxCh1SxBd1SxAl1Swy51CUDlBP22Ewb052IJa0VTE62Hg1F-Qg2"

/-- Cuts a list of numbers into texts; each is given by its length and its code points. -/
def readTexts : Nat → List Nat → List (List Char)
  | k + 1, n :: r => (r.take n).map Char.ofNat :: readTexts k (r.drop n)
  | _, _ => []

def texts : Array (List Char) := (readTexts 989 (numerals
  "2B0Y82B0Y42B0Y12B0Z73BhIC4Bk3BhIC4Bi3BjIC4Bk2D9Y72D9Da2DcFn2VsDe2D4Lu2DcDa2DeDa2D4Dq2B0Y62B0
  Y72B0Ya2B0Z82B0Y32B0Yb2Y8Y12B0zp3B0Y8Y12BL5BM22BR7BTk2BS8BTk2BW7BTk2BSaBTk2CIlCJs2CImCJs2CIn
  CJs2CIsCJs2CJ1CJs2CJ2CJs2CJbCJs2CJfCJs2CN1CNs2CN2CNs2CNfCNs2CRiCRs2CRoCRs2CQmCRs2CQnCRs2CQsC
  Rs2CRbCRs2CZ1CZs2CZ2CZs2DSdDRi2DWdDVi2DVbDUp2DVbDV12Dw2Dzn2DwcDzn2DwhDzn2DwmDzn2DwrDzn2Dw0Dz
  l2DxhDxi2DxhDxk2DziDy03DziDxhDy02DzjDy03DzjDxhDy02DxhDy02DyiDzn2DysDzn2Dz1Dzn2Dz6Dzn2DzbDzn2
  DygDzl2D1Vu2HY0zp2HY1zp2HY2zp2HY3zp2HY4zp2HY5zp2HY6zp2HY7zp2HZ0zp2HZ1zp2HZ2zp2HZ3zp2HZ4zp2HZ
  5zp2HZ6zp2HZ7zp2Hx0zp2Hx1zp2Hx2zp2Hx3zp2Hx4zp2Hx5zp2Hx6zp2Hx7zp2Hxgzp2zhzp2zczp2Hzmzp2B0Yj2B
  0w23B0Y8w22Hxkzp2znzp2zezp2H+6zp3B0YjY03B0YjY13B0Yjw23B0YkY03B0YkY13B0Ykw23B0Y8Y02Hxszp2+9zp
  2+ezp2H-mzp2B0Yk2B0Zj2IBiIBi3IBiIBiIBi2IBlIBl3IBlIBlIBl2B1B12B0Y52BvBv2BvB12B1Bv4IBiIBiIBiIB
  i2DiDj3D1BfD33D1BfDj2FgD33D3BfDf3D3BfDl2FgD62DeDf2DjDd3DkD5Dc2DkDd3D6D1Do3BhIC4Bn3BhIC4Bp4Bh
  IC4BhBg3BhIC4Bj3BiIC4Bj3BhIC4Bl3BiIC4Bl3BjIC4Bl3BkIC4Bl3BhIC4Bm3BlIC4Bm3BhIC4Bo3BjIC4Bo3BlIC
  4Bo3BnIC4Bo2BhIC42D9D93D9D9D92D9Dm2DmD93DmD9D94DmD9D9D92D9Do2DoD93DoD9D93BgIC4Bj2IRbIRb3IRbI
  RbIRb2IReIRe3IReIReIRe2BhBg2BhBh2BhBi2BhBj2BhBk2BhBl2BhBm2BhBn2BhBo2BhBp2BiBg3B8BhB93B8BiB93
  B8BjB93B8BkB93B8BlB93B8BmB93B8BnB93B8BoB93B8BpB94B8BhBgB94B8BhBhB94B8BhBiB94B8BhBjB94B8BhBkB
  94B8BhBlB94B8BhBmB94B8BhBnB94B8BhBoB94B8BhBpB94B8BiBgB93B8D1B93B8D2B93B8D3B93B8D4B93B8D5B93B
  8D6B93B8D7B93B8D8B93B8D9B93B8DaB93B8DbB93B8DcB93B8DdB93B8DeB93B8DfB93B8DgB93B8DhB93B8DiB93B8
  DjB93B8DkB93B8DlB93B8DmB93B8DnB93B8DoB93B8DpB93B8DqB94IRbIRbIRbIRb3BqBqBt2BtBt3BtBtBt2KWtZo2
  B0MEp2B0MEq2ME8MEa2MFjMG83B8EI0B93B8EI2B93B8EI3B93B8EI5B93B8EI6B93B8EI7B93B8EI9B93B8EIbB93B8
  EIcB93B8EIeB93B8EIfB93B8EIgB93B8EIhB93B8EIiB93B8BLA0B93B8BMEoB93B8BMX4B93B8BNxsB93B8BOO8B93B
  8BPAkB93B8BQFcB93B8BRK4B93B8BRygB93B8BTB8B93B8BTTkB93B8BUG0B93B8BUYcB93B8BVKoB93B8BSHsB94B8B
  RR4BSA4B94B8BRR4BVW4B93B8TQ0B93B8TUcB93B8TQ9B93B8VWrB93B8TUkB93B8ULdB93B8TQ3B93B8ULbB93B8TSt
  B93B8Uw1B93B8ZY8B93B8yDbB93B8xBkB93B8ZZ8B93B8BEOhB93B8VYvB93B8ZP5B93B8wBaB93B8ZY9B93B8+JuB93
  B8VAdB93B8yTpB93B8BDF1B93B8+KtB93B8UVkB93B8TX3B93B8VDsB93B8Wx6B93B8zX3B93B8TY1B93B8BDG7B93B8
  UwkB93B8+LdB93B8TYhB93B8BAPaB93B8BAPjB93DgDkD52BiBh2BiBi2BiBj2BiBk2BiBl2BiBm2BiBn2BiBo2BiBp2
  BjBg2BjBh2BjBi2BjBj2BjBk2BjBl2BTBoBLH02BSHsBRwo2BjBm2BjBn2BjBo2BjBp2BkBg2BkBh2BkBi2BkBj2BkBk
  2BkBl2BkBm2BkBn2BkBo2BkBp2BlBg2BhZY82BiZY82BjZY82BkZY82BlZY82BmZY82BnZY82BoZY82BpZY83BhBgZY8
  3BhBhZY83BhBiZY82D8D73D5DiD72D5Dm3DcDkD42TX4VEc4MF2MGhMHsMG84MF2MHbMGlMF14MF2MHjMGqMF23MF2MH
  sMHb4MF4MGbMHjMFg3MF4MHjMG13MF6MF9MHj5MF8MFpMFfMHsMG94MF8MHsMFbMHs3MFaMHjMFp3MFaMHsMH03MFbMF
  4MHa4MFbMH9MG3MG84MFbMHdMHaMHs3MFcMHdMHj3MFcMHjMGu2MFeMFc3MFeMGbMHs4MFdMH5MHaMHs4MFeMHbMG0MH
  s2MFdMHd5MFdMHdMFgMH9MH06MFdMHdMH1MHsMG8MHb5MFdMHdMHfMG3MG83MFgMH9MH05MFgMH9MH0MG8MHj5MFfMHb
  MFsMF4MHd4MFfMHdMHsMGd3MFhMHsMFp3MFjMHbMGa3MFjMHsMGt4MFlMF4MFfMHb5MFlMHjMG1MHsMH04MFnMHaMHjM
  Fg3MFrMHjMG13MFrMHjMG83MG0MHsMFp2MG7MFn2MG9MHb2MG8MHj2MGaMGe3MGeMG3MG83MGfMF4MG45MGhMHsMFrMH
  jMG83MGhMHsMG44MGgMHsMHcMHb5MGkMF2MFpMG8MHb3MGkMFfMHb2MGkMFj2MGjMHb5MGlMF1MH9MG3MG94MGlMF3MH
  sMG85MGmMG3MFnMF7MHb3MGlMH9MHj5MGoMFfMFvMHsMHb2MGqMFt3MGqMGbMGi3MGoMHbMG43MGqMHjMFp3MGqMHsMF
  o3MGpMHsMFv4MGtMF4MHjMG83MGsMHbMG82MGrMHj3MGtMHjMG93MGrMHsMHb3MGrMHsMHj4MGuMF4MFfMHd3MGuMF4M
  Hb3MGuMG3MGf3MGuMHbMFf5MGuMHjMFnMH7MHj4MGvMFfMHdMHj2MGvMHa5MGvMHaMGgMHsMHb2MH1MFc4MH1MFcMG8M
  Hj4MH1MHsMG8MHb3MH4MHsMG93MH4MHsMHb3MH6MF2MHj4MHaMG3MG8MHb2MHaMH93MHbMGkMHs4MHbMHsMGmMHb2MHc
  MH05MHcMHjMG8MFiMHj3MHfMG3MG82BgyFp2BhyFp2BiyFp2BjyFp2BkyFp2BlyFp2BmyFp2BnyFp2BoyFp2BpyFp3Bh
  BgyFp3BhBhyFp3BhBiyFp3BhBjyFp3BhBkyFp3BhBlyFp3BhBmyFp3BhBnyFp3BhBoyFp3BhBpyFp3BiBgyFp3BiBhyF
  p3BiBiyFp3BiBjyFp3BiBkyFp3D8DgD12D4D12D1Dl3D2D1Di2DfDm2DgD32D4Dd3D4DdBi3D4DdBj2D9Dl2XTjYQg2Z
  RdVEc2WJ7wx32ZQexFr4wBaXYfTYq+Ju2DgD12DeD12zsD12DdD12DbD12DbD22DdD22D7D23D3D1Dc4DbD3D1Dc2DgD
  62DeD62zsD62zsD72DdD72DbD72D8Dq3DbD8Dq3DdD8Dq3D7D8Dq3DkD8Dq2zsDc2DdDc2D4Dc2DbDc2D6Dd2DeDd2zs
  Dd2DdDd2D3Dd2DbDd3DdDdBi3D3DdBi2DdBi3DbDdBi3DdDdBj3D3DdBj2DdBj3DbDdBj3DdIQlDj4DdIQlDjBi3DbDg
  D13DdDgD13D7DgD13DiD1D45DiD1D4IQlDj6DiD1D4IQlDjBi2DgDj2DeDj2zsDj2DdDj2DgDm2DeDm2zsDm2DdDm2Db
  Dm2DgDn2DeDn2zsDn2DdDn2DbDn2Db+92Dd+92D2Dh2D3D32D3D44D3IQlDbD72D4D22D7Dp2D8D12D8Dg2D9De2DbDb
  2DbDk2DcDd2DcDe3DcDfD72DcDo3DdD9Dc3DdDfDc2DgD83DgDgDd2DgDi2DjDi2DjDm2DnD23DmIQlDd3D1IQlDd2Bh
  ZP52BiZP52BjZP52BkZP52BlZP52BmZP52BnZP52BoZP52BpZP53BhBgZP53BhBhZP53BhBiZP53BhBjZP53BhBkZP53
  BhBlZP53BhBmZP53BhBnZP53BhBoZP53BhBpZP53BiBgZP53BiBhZP53BiBiZP53BiBjZP53BiBkZP53BiBlZP53BiBm
  ZP53BiBnZP53BiBoZP53BiBpZP53BjBgZP53BjBhZP53D7D1Dc2D6D62D6D92D6Dc3D6D6D93D6D6Dc2DjDk2BLkBLm2
  BLkBL52BLkBLb2BLuBLm2BLkBLd2BOpBNk2BPiBNn2BP9BO12BP9BO23BP9BNsBO13BP9BNsBO22BOgBNn2BOgBNo2BO
  gBNs2BOhBNs2BOiBNs2BOjBNs2BOkBNs2BOlBNs2BOmBNs2BOoBNs2BOpBNs2BOqBNs2BOrBNs2BOsBNs2BOuBNs2BP0
  BNs2BP1BNs2BP3BNs2BP4BNs2BP6BNs2BP7BNs2BP8BNs2BP9BNs2BPaBNs2BOlBNp2BOhBNv2BOrBNv2BP4BNv2BOgB
  Os2BR6BR72BR6BWl2BR6BS82BR6BW72BR6BW62BR6BW82BR6BWg2BR6BS92BR6BRc2BR6BRd2BR6BS52BR6BSa2BR8BR
  c2BR8BRd2BR8BRe2BR8BS52BR8BS92BR8BSa2BRaBRc2BRaBRd2BRaBRe2BRaBS52BRaBS92BRaBSa2BRbBRc2BRbBS5
  2BRbBS92BRbBSa2BRcBRd2BRcBS52BRdBRc2BRdBS52BReBRc2BReBRd2BReBS52BRjBRc2BRjBRd2BRjBRe2BRjBS52
  BRlBRd2BRlBS52BRmBRc2BRmBRd2BRmBRe2BRmBS52BRnBRd2BRnBS52BRoBS52BRpBRc2BRpBS52BRqBRc2BRqBS52B
  S1BRc2BS1BRd2BS1BRe2BS1BS52BS1BS92BS1BSa2BS2BRd2BS2BS52BS2BS92BS2BSa2BS3BR72BS3BRc2BS3BRd2BS
  3BRe2BS3BS42BS3BS52BS3BS92BS3BSa2BS4BRc2BS4BRd2BS4BRe2BS4BS52BS4BS92BS4BSa2BS5BRc2BS5BRd2BS5
  BRe2BS5BS52BS5BS92BS5BSa2BS6BRc2BS6BRd2BS6BRe2BS6BS52BS6BS92BS6BSa2BS7BRc2BS7BS52BS7BS92BS7B
  Sa2BSaBRc2BSaBRd2BSaBRe2BSaBS52BSaBS92BSaBSa2BRgBTg2BRhBTg2BS9BTg3B0BScBSh3B0BSdBSh3B0BSeBSh
  3B0BSfBSh3B0BSgBSh3B0BShBTg2BR6BRh2BR6BRi2BR6BS62BR8BRh2BR8BRi2BR8BS62BRaBRh2BRaBRi2BRaBS62B
  RbBRh2BRbBRi2BRbBS62BS5BR72BS6BRh2BS6BRi2BS6BS62BSaBRh2BSaBRi2BSaBS62BR6BRe2BR6BS72BR8BS72BR
  aBS72BRlBRe2BS4BS72BS6BS72BS7BTg2BSaBS72BRbBS72BRjBS72BRkBS52BRkBS73BS0BSeBSh3BS0BSfBSh3BS0B
  SgBSh2BRnBS92BRnBSa2BRpBS92BRpBSa2BRqBS92BRqBSa2BRjBS92BRjBSa2BRkBS92BRkBSa2BRdBS92BRdBSa2BR
  cBS92BRcBSa2BReBS92BReBSa2BRlBS92BRlBSa2BRmBS92BRmBSa2BRkBRc2BRkBRd2BRkBRe2BRkBRh2BRjBRh2BRl
  BRh2BRmBRh2BR7BSb3BRaBRcBS53BRaBRdBRc3BRaBRdBS53BRaBReBS53BRaBS5BRc3BRaBS5BRd3BRaBS5BRe3BRcB
  S5BRd3BRdBS5BSa3BRdBS5BS93BRjBRdBRc3BRjBRcBRd3BRjBRcBS93BRjBS5BRd3BRjBS5BRc3BRjBS5BS53BRlBRd
  BRd3BRlBS5BS53BRkBRdBS53BRkBRcBSa3BRkBS5BRe3BRkBS5BS53BRmBRdBS93BRmBReBS53BRnBS5BRd3BRnBS5BS
  53BRnBS5BSa3BRpBRcBS53BRpBS5BS53BRpBS5BS93BRqBS5BS53BRqBS5BSa3BRqBS5BS93BS1BReBS53BS2BS5BRd3
  BS2BS5BS53BS4BRdBS53BS4BRdBSa3BS4BRdBS93BS4BRcBRc3BS4BReBS53BS4BS5BRd3BS5BRdBRc3BS5BRdBS53BS
  5BRdBSa3BS5BRcBRd3BS5BRcBS53BS5BReBRc3BS5BReBS53BS5BRcBRe3BS7BS5BRc3BS7BS5BS53BS6BRdBS53BS6B
  RdBS93BS6BRcBS53BS6BRcBS93BS6BS5BSa3BS6BS5BS93BSaBS5BS53BR8BReBSa3BRaBRcBSa3BRaBRcBS93BRaBRe
  BSa3BRaBReBS93BRaBS5BSa3BRaBS5BS93BRcBS5BSa3BRcBRdBS93BRcBS5BS93BRjBReBS93BRlBRdBSa3BRkBRdBS
  a3BRmBRdBSa3BS4BRcBSa3BS4BS5BSa3BSaBRdBSa3BSaBRcBSa3BSaBS5BSa3BS5BS5BSa3BS2BS5BSa3BS6BRdBSa3
  BRpBS5BSa3BS3BS5BSa3BS6BRcBRd3BS5BReBSa3BS4BRcBS53BS3BS5BS53BRcBRdBSa3BRdBRcBSa3BS5BRcBSa3BS
  1BS5BSa3BR8BRdBSa3BRjBReBSa3BS6BRcBSa3BRlBS4BWi3BS2BS4BWi4BR7BS4BS4BS74BR7BS3BR8BRh4BS5BRdBS
  5BRf4BRlBS4BRpBS54BRhBRjBS8BS44BRpBS4BSaBS74BS8BRjBS4BS53BRlBS4BS9iBRlBS4BS9B0BR7BS4BS4BS7B0
  BRpBS4BSaBS7B0BS8BRjBS4BS58BRcBS4B0BRcBS4BR7BS4BS74BRhBWcBR7BS42B0BSb2BS0BSb2B0BSc2B0BSd2B0B
  Se2BS0BSe2B0BSf2BS0BSf2B0BSg2BS0BSg2B0BSh2BS0BSh2B0BSi2BS0BSi2BS4BR22BS4BR32BS4BR52BS4BR72DU
  KnDUL52DUKoDUL53DUKoDUL5DULe3DUKoDUL5DULf3DUKoDUL5DULg3DUKoDUL5DULh3DUKoDUL5DULi2DUNpDUL52DU
  NqDUL53DUNpDUL5DULe3DUNqDUL5DULe3DUNpDUL5DULf3DUNqDUL5DULf2BgBc2BhBc2BiBc2BjBc2BkBc2BlBc2BmB
  c2BnBc2BoBc2BpBc3MAkDjMAl2DnDq2D8Dm2DjD42DjDj3DgDgDm2DnD32DdD32DdD42DdDi2D4Da2MDrMCb2MFjMFj3
  MAkZZcMAl3MAkTQ9MAl3MAkTUcMAl3MAkWy9MAl3MAkyFpMAl3MAkYSjMAl3MAkzWnMAl3MAkUWtMAl3MAkZKnMAl"
  )).toArray

/-- What a character becomes in a host name; `none` if it is refused. -/
def map? (c : Char) : Option (List Char) :=
  match (table.value? c.toNat).getD 2 with
  | 0 => some [c]
  | 1 => some []
  | 2 => none
  | v =>
    if v % 2 = 0 then texts[(v - 4) / 2]?
    else
      let z := (v - 3) / 2
      some [Char.ofNat (if z % 2 = 0 then c.toNat + z / 2 else c.toNat - (z + 1) / 2)]

def isKept (c : Char) : Bool := table.value? c.toNat == some 0

end AppLinks.Unicode.HostMapping
