import CCompiler.Text.Packed

/-!
# The names of characters, packed

The names that the Unicode standard (version 14) gives characters, and the aliases behind them, in groups of
neighbouring characters, one group a line. Ideographs and Hangul syllables, whose names follow from their
code points, are left out.
-/
namespace CCompiler.Text

def packedNames : String :=
  "qX(3cS*Q/2I28dLUlVM&]O5p_hpl.d_BVQ;#rnWw~$#qU!,Znj[p8qXSpqb~e_[Tk[kbk$wMHE*gO+7PaX;w&BzD2W<+q0LsbG~z>~VU~4v@cJAc'rL#Xi
=$e^+n1.qH(GN@AGl1QUI0X4~1Y6smA^Cf/:@8/Sl0bP[kqbPmd/Zh$@^vsBP=[Y|y/=b1i4^!;G%w$8hUU])agXnGUYy;N|2pQ>hc+Kb~rIg!M|bQ(/y
JoP,96~5oEvK_|;Cjwf'`51o1~f?pn[[Kd/7gNtlX;a10Zzo`Gi$I0LMOYT)8p+l6B9j/]XTK%[kgrg!)W%UZ.g>`PWYn+0+zd1Kf_XlBVKx&=~(dnPM
RokpY2p<,WN$K(z#5,z(KYfpo9(SIy&(OU]8hQqyn2=;0xnW,7fD?<=<8D/5Q#6;]ZPglUp'M9M`B7ZH5+.kp(5cIj$^WihHgIjQ|EH_C)zegEt[M'4>B!
ZGB=q;msH)4oiXbi^UZqJ=f0H><Le1!JTah8K^610|c[(OZnK4QW7+SH<)kCHa9h[ex+F~3_/`c$s8Wgb~mDipwU[fAb?9&JgtS;UOpY(u.;B7k9>X)k
&')!roZ?o`.?;HU8~1&|Ihfy.$ufXO6OY=J)cq>?1HTY)fnU*Z9=$dL?8Z_8kDB~8sl#S9sda:`:IxblGe<&7N>q_q/YrET5|8.$bvwry5AJ9Q?2gAD5r
3'|#Rzfo5gGSN.u=sL4Z8`[u/`2>~Oxk;Y_!a=Wb9V?Cq3lJF!2;.rEJGK=$leUV:KJIm4'c7YkS@7uf,ocoRW@NySwDn;^WwPdF]['#@N5jJ%LQhx:d1(
Q1HDmB^,?%yhsK*Y@csfJbQ2$osST0~n^Yo#FVva]N4uN6037kknEt[I$t,T*N(FD]*]Do1HL7>@U/f$eiS1'fA^%=?RYccFwcD*44(c:2|Vj:@f#^,i*
3cR6s2K1])Gr7R!H!~g3>7$ADfZ6~6S[FmXv;wAp=aCPa0bSz@s>qagsR(lzKo;_PDGDG6Hqg+bp9)q*RUmS[7QWcz*D`7z'`d[^G2D#d1XHBhVG~P6t)M
[t;;U3Pdxph?RpWsjk>cyd&%Z/uho9'2Xwmy:*p9;d^V)OLII7wxMn8hQgx`bkzUMG@TdjKI3yAN6M|peDj|v/=SmAIF5tro9gq/U^HS3k7o]7yuN=D]Y4
Xn:c8l6Vk|TWBUb1z?cCD%JX@.3DIL~PK@`3EDrS^?C_NIZ[|aIcxk(`o3.W_t$8sAA4,!tIQtLw?Kf5]|f.Fs*Vu[pv|OCnKO/#0$<ww,'A.aD2md<NOH
HC<_Oa?fT*an0>k0FLaJR!E4?9^Q(wDN%v=CYSZV%8HaP..3*~O2BPPvyFKJSuF2rg>'XXeuP0^n]V.(4<v_sd$V6%Xhby4ue7oC_]=Il@UUod092Ca^rw
NV(hq84il,$:S[T]I9ES@X?buoR#dFNb6GHt1Bf$vwb~Uv?3!vbmtbRONA#?GpF3a3tR;SG42w/6kVh'S~MpL](dJ9TLLcEB8R6uE#01)2SJ0V99OPSxm,
Ip~wK%SaKH]q.#)mEU!%%,7.C568:C.F^)h'G/j,XDqn_Xo(fH)89aUVb:Fz)beNF#TF4)&8b1Bwbdm($b%s?PU.,>Qk,k5Q@H77ih+tIT;;9gjDp/_X`
8kE1z&tq*r]es.`'lG8JvrYCq|e[3gs&&~7OiDPWmE_:>DTdyWG+ZVR4[.9#9P9^UoB]%r^QdQ]bh:?,!`2zzIgT[2Zn_%:Xa:>Ip@|lIFJ<=C:fm!oy
6euKr>QU%^Ef&t|,5l;&[kP3|$|BD1H<rlOabX:frY~F7b<k;|+`p4]8$RWuOL5jP+hoLrC!dBQ.o0SIr<ZD5jKoYIeVs<AKv.`rc1:(G5(~Ma[jT@PIu*
B,DGIUNjG$D2I$CVZ;CD8HO:Nh5v@Di<zDaw~81SPmROwX:oFBt5t1AYh~$[,jh8dXBTpSLoU^F[S0s<.</6Xp0vxy]ps9<~n%QXk0#(fx=!SV8)gNUD
Qc_!B_C>/Jw545N1o(5(:$YP2D5IA72#wG`:]Lx?Jvzc^Q`8+:0xYM1e,5F4TD3ZNW1mG]_F&D1%nwwYmte1P&(rEQq|RWL`!q/X4WwaHRFc6XdXX'y#!
8h<58`<cm+=QcV))OMfEsKX[ks4&$2P+K$F8oqUZK7_AV?wiz^w%x(YoS8W5*[[t@Q++qTLkRoeGEzg&!D1k:sqgsyWl?gqy7xLNRL,'Z&5Z<k0_*KXiA4
T.K`S`'Xm|3iiydg^LS,0k|+2yygp2ONN`4P/,4BD)f(|Z^<xeuQsvVexPaWwP)~amUeeVlM:DNG'?PgChC*WCzaP775RR8Gs:p'1CHsT0ob,e>!;tabYk
T%Lz8'r2:JWlD*K#P<xxu%'g]3aU5rYKutlFeVTsc<!0AcFEWzBA0q&[NEfwUT9zOU;hglU=,9(>P9wq%(CQ$*:$;;BEFWp+:@V.bvx5q:Qg#Mj=MCBQw
W;'iZt_OxsrR.v2#U7tog?^h'%j@^T$WAs^4Z`P/(8G1K,*dphaUfq%:T<mtgWuQm)x.,$jGpZPP6_Iufs8E>Q2ij~eeeLu5&fq#+RRG_4&)Ii>rw!7A;
EwvE5'dqeB~+WJgX1(I@61?&H7nvH7aeS*c)[TQ@Uxj|LWe'(6'r|Ry*$soEI|4Zcb[ezl??Fo3DNVq8zqd;6O&uc`xcB4EAGBbTs=HFK?QS2hzKF4+@hU
]UF.PV<4cFUt?rkTX[tt.Wpv6DFpd^nqoRT/?:g9~gknRanOPtBK[aJT(x6X7gS_|]enSi5ulLU9t*0_=1VUUpPgoV7>?v8GqN*E,2ts)Bz/tHlytNOSOF
1A!)Nx+GL/+~;+3V[Nm]_7pFGbf#)1PRO^#19^Z!<VY|neC8^?VAgRM7E.;[[+zV<)vWbzT>Rq)TGWq!VQ&&5e<Zo+Lz$DM2t;PTkx,(+Ek+GE8C^a*E&`
YHmec#+r5TLZS%=AjfT,s9'vv[X)3#2<'U,3:89UBdHZ&.$oKoKO2[!&^B40U~v<3MRV]%JPo6t5Eg#Y8B>^DEh4bTU!fXg?;>pY||0%fj@<PxT]%V(;Fn
?4[nsmQkX3p_B~dk_,fpRSnD).gO?8My^f/<$x3I0'$DE=4r9#StksjK;~C9~#U8Pc7`?K:7A.GeZO#%PMnUKB:fkCsRIRPnClW&6?%#%`s.D_S:o;4IaZ
8GKsolXq/Oo53N,W[636fc20o(hWp(A^ys(s0!<u!EBoS~^/(,d>8u!fDlXWLXoR;|hg&Dq|o~PnuO[0M7ix`lDRjnO~9aKhEPHFNftu.!@x8k<jWaimpd
AyH2;fxqLpVO#IZmiw@sSH44#[`7JwmJT2A.3A|XW&<]~!6#'?,/b`Y]BujLh>aCDHh~36,XWYZAL;'PY~/2^pA;O/7w@?joYwQbyD($~G<uK:fKddF%Cl
4?!):C|::E(FrHf(ajN>'9~[:qx%xx)vNhxhVmEL[D!ZqvY=`?@DiGid+2~[=A^;.[%E>5go|fsTNB;70@OynvFh_9bG/wK&st/YrSzm2ByTbF',|3<
F)+gzIjK6<3&;m)#|'#tY|bH.Fny>_^[&$/tP**T0#n(=1^Y6#f%YvDVd`(0N5aNmq_v1Rgt!#0lmF&|3[)fRlbf,lG75ixcm[%ljIt275&2A#i52%p+6#
?le$`H_W.*t36]rm5ZK$&Im!?RX6XbBw$vrVv~_tHx<]ZI,;7BdIh>sZ2iwic$&%oxsM&J81`v75C`/_j+0kJ>fkXr3Dmm`DH`;yprYzUegHd1i@:n0K<
&a<Bpr/h#j<T7vK,MXL=U>'Rit1bPQcs,DQ0ZN18tIsPqj|6ts43>i.`(9cEc!r^UjVWGEKXf%Y1CP&BQkAGUiq4E,V1Nc<Ypy`D1gLsvj6626w9s&PJy
MfoA%[%m%3A9HUOX,qc?fwl`?]D&tC(h~yPZ!@M][c@UCJI%Uuz6.>HZNRUe/V[<#&2H(GW?lF__4ANu/yaeh:c;$#4o=,D9.m;V2I`S`wd@lX@U5(/g5E
QgHj&m+v+zE59iaB_>#bNvu~SU.ds7%;y3F_bMhn_kxlKFv7gIxt~`4_!>:nx8F;keTzG;/h=qx,fK(whu]lH[bgL|<1)&z'vO1nwVdN'H,p!FRU6(]$q
%b3n$cN1N2YH;Rj`SQHwB`2V6g5DQ,#tEz)|o'vu(X~.?vPOQeWK/qj&2P+cI=KRy7d%upDUm(%TKuAXVEArX@,m|ZqFc=GF8.vOOHBSsC4y*ce*e6(oW
~:zP!k&]@_K;g]5[W@+=~X)<]4Jg/8!??kG;=GlJM*lOlw9Zjb84)th!qsRb!rPNru7d*~Fg*qb[yUVzT|1Fn$gT]/78g!Z5C#K,m)7nI~L'Q.|j#%webc
VcT^JhSl))'gGz4Vga56dgarYA!^T7lzZ5zywO81^;+p/cVIQcd?D$M$]?:,EE#f6SfHT]aD2]or;ZE,E'sMl;+zcO52]]6*3n&.uX3nz:RXh/fRzyB7CO
R|hBQ9PPRTo'C|or.fmDV,4Y5>HXeEmKLHsSD$C?LZBNaEQ3]ss&v2@LF'Hp'axgX><,vthW%y7H67PVs98Q=i,i1Ug6~G^Tp`K(Z8aF5c+Cf6TR?/uM~R
Tsj2V9LL7*%UAlH&&z^03TOsWtW!7&*rtlGMHl?>/QKt,W1D'cJLZRfZ~Ae);sB0!Wm5i~0ha'C)1m;ttg(LbwGB2;]/lqj7aR++sC6I^>6R?^sXdFQuoD
Q7+:Jhx.K5I/EEcd&B+i'r^2*OR8Fjl`[/qg4Cq<H*g9NL_rX6ivGzF3m.=JwOZn5D,p8wT)aYe'rXZS^T[4g%JDmVJ&qrrbYUw)&c[y_;LaxW|yt!j*/_
4u9~aJ)nx23VyOEr*gskFB;T>60E=jX3TXf7jED.0*ha1/`_;KKTdQD9i#b]is|*etqjEYC3G.>PA;,QvWB!fxH;#db92U*y&BY?9(UUzT[@^7*_qV6$7w
QWEW@X?|N?^MWBllt<Y?29/8@QLs,,`jtU>_e|H/unQy6hEn[NkL6`AXkI.OpL(pI>Iwk.7jl5BGc>M!q#`itdp2(iTwy,V]8=.Mlo`ZZ;6It2jV
Hx`v!cp^3r`mkCMyoJ'7|'q&@)0&;jTi+)34hY'sv_:x~C6vzi1]fTtoj!_,=RoNrZn.9/q2vNjvh*Nv$Os3Fp(1]eYKCyA[C<PG=7RwmThA'7ZJ=94[g
2*;A^?qb80:O`lKsDqmXf38$+fN_!bEO3]7VdV(dyY,L;Rjzoid9*6tg*6e>NR*#[,EC9?uUBRpu>3Ly~=j`uPt#ipzq#fdM<4+~:^g[ExY8%?21:Ko
0r)wE!quAz%/wqI8h=ce@shMIk*c$aZU|>A/3@yB;nA='M]]U5~hi^eGaxiw0XOxxjrQla_DESfp>G^>:968EN#B0cAmq7h~:Edc;LwWD_#8Q8ZfLIV?z=
&tTyN.z^=FJ9@Kj0p.Ksgh4d?/0Jrzk/J`7H*?N.YfQ|)^L]MV(th_E'DV6yLnF0%;DXa6>Y6VqTHn$RT5[1.RhR`*vn0Yp=W*PLtmV`7JvQZQb#G/AHL=
Nnt#5+U1#%>`wG<w/yGqs+$)eqK8uPzHJM#q.5fG?6g5Q;f_mIblN<B^aXT|X]NChw/+#)<d)%TFfcsV7WY@A3?xU#1Q8.wLt|8J@7/%+=~v+sd^=W#c0
4$WHx;/HxjWo`I6#2V#KKp&4Mal2'.T3]wF&>F@op_?!ZyZg4U!3+l2<4npw+HAsI3;eWhq'QI/y/DSP_ufI+o(v]DU.W35AywG|NU_5LTP`TFsu!(l,$f
T1>^Gi`e#3KXY;XPPE[+[z__iQYJ!5Lc2GN4&$Pubs[L>Y(RUtPIy,FK2TLupqmqxPBinHojm1V6g&v0W&q~,^r]ja&X7(B5gJ+yv6w!#`&!i%Y/pZUcu
Jke<Tc6n%a4VjsM)Rx!lEBGXrWfJ3vqZ0q58*D't)i~'=GZ95Y#c6p.xGA6u~eJ|bDVrcND0JG[as'g2iJ'6+3`:F<g5g!OO|=C[lD~bJWce;^Qs1xm8.^
PK_;w?lHa)JvJWJ!A;7l'.`y[,bi2Dl|cXU.:j;@]n#iI5UO@BH@!+eOopBRIq;?GWkGvx>U!_PqX6LI:GMHZ@RI*iphph<95lm#'`=NTE`efqiyc7t`2%
&&Op^N!0+f4VhW&2QtuaB<r[>HcntU)]yKrw|9]Z%37j2g<+*J1Ryb2kSeRL17So6/RQr?#:7`;/Ya1N2IQZw7_2xrW5D/9E.SG/^U<gi1K2_D$F1cIwB
U:G%shO:Y!78<_L+MXnLih2jQl[`e**<>xUlr$Lx5EQ__$DcB@X;AHpN~q?cMhS(w@nwU#`ZBg)kZ!.+dtYv&IQmp)cfIy(b$QN75%me(XO0+PH]#FGn
Pq`*LyNy9Ivkbb>wcN(zozfjU4V]p`o>mNLd,8DqOvVx6YQ%FSwmez=H(Z`!@w](V^cd1KaY6^Y8@y2JE$RxQ/X%9S#<,is!6mKS8|$X.TE~)CL(V)(UG1
[eiU:0l_tjQ[HQ$!p6]Uj=Zf4H@fT~ZqL~`7BG&00>ImSXYSPq[GEUw>O$HNb]atPW*Rfeml_p.qbxkAJ?yy:6F;$1|Et6N;8>&a(YiTsLSp!*6T'ojC6
&@i$fdjPHLrA8(E@K(C4GO6PSwQE@WJxb>mPJ]8#^`&fv`W$PcQ),v,;0?`0DlSz_WD7hnb)8M$tEyXq]EW8ez$|h4wW?K3jhNjmL_3&,P((h?q~74r4TD
E6L|xum06j'Cn#POai<,viFt0NMkE[ik)`d?yQQNq('x0aF:6_#v?%s>j@:b/VRJK0RUE4+n:)a_7a/qFOc4BjNOm(4gkx@Pu6|S^A(.<.BdW@LLNfJk]
O$P.ntmKR#[jod[@(`?oUzB_ki1cYPz5YJ0:|%&OYJM5u#>q=qoSzsORu#vZ~U.YpyUTOVLb@P_[~0y.,nui9V^+*$tKRx1Tu*9`MgwvU!Lb)`vhxw0<di
%.U#yJMGfBmlLqWXA/pm4+kH&SI|6H5>nkx=!W$F@zEPtRY7u]ju4I.OB'B$whtl@7VNn^PopTipi)V]o&?3>F0[3T9|%@ZtiQ+*Pamnr!V4#Eut1
Qjbrbcw]Ky7ev0czh?T7I/v4TP)a[wfuIAqG%|<~<Wb/ZHTm*S8shI#o&UPekzEb5cm8=@zynT(/zL6^3CfA/HcnL#y8AvlNFcNa@db);M45<QX&'tU`]
8rKr.B[FWDR*ZvmpJ17+k&'8($4$4CVNHz]^ULC#i?ZBWSNZs)yq>iJr_6FH!3nr^(E0QJpG/8lI@URDIX~r*P7hRej!GZV4,/5v3^Ylh|qlMPD_'2DS7
W;z.:h6t(k3n5u4)3lj)o^r:ctm,(NJ.IcbAQy[_jh|[GTNpL;xVZ,<QSJ~f~,rQ|:mpiF?Pv=TlBYhCe+J0R~+a5n@&*k:J.+a2AZqK|RnDbEyhX6zRl
2k13j[*wa?jXJj6+'$>6:e~Y,=#qwl:i91K]4#yahE69'/a!`eFqgCK,k|nEc#bKO]zY3b|?&;fS|(8Eip7XMx62'<P=nH=^&CX.E6d6JLTZpB;sC[z@(a
~<497y=PZG5,xFB@LEcA;?i/GKPr<x[tqK5&jAak77KXgf'WLu]ki#=8HaUe4~]yFnknbHo^fPi@w~,4hp08P(<@3hSXnsyr&FSxudgHbI8tIr.2'08qn%
TMGd+@Pp)MLpEmJ#zX_14gYYb]<;d=a=iI3kdR<K[!]LATU&JzPaqHZYN?i^n4UtFDp_Rro#`LwV%![n4We]~!ZY.]P=|7j<g8EI_=:CS2>%,Q6K4G3;&7
E%l^mM=]ri#Wlc;r()pyCUpmuEg.WOLT)3CmgjFLt]4nlbOy4s[MvCGn[uaj);UnIx&f]b~t=B5%5jAZmYg)8*oAD0X5<sdlFMDhY'mRxwcjsB]3NHa.nM
T~%^_X8?mtT<N2Cl0JgX'6O>]j(mw5M/ex2%/okkbS/F$:851yB8bPu)l9Q8%U5%sh~qEpSZqU|&tC`,3[+2B6ov?fvn1$uh3!BXP/NJjHZdbUoAU_oCyQ
OH<uCSh1zh?&C7V;TdblI&?@>]U;06jF=1'!3a^t3*'o@xm&:h^nd[es1oiRhsl<_uQ39MdAVYjT?rc]+M%uLx4UFs9aZRY+::|`pTrHnJR(/OcpUEn
T_#zG1NkZtrrrLq&Pn1!+IeG*:4]'*FiU/[Iy@`zBLaJgzXrp2BEPV/WA'Jy1]>PJR5%:TauSg&hGq19s@+c!l;O%3>kf9=@HXh+T9GS[sy&4K]A^Q`
Uu/c.*R`ph!r/^LA_va_7PS3[R_;7]x1K)g)kVE/aF_kODI!guG.aGPXkd:s^]sjvr)XU?C4.9p^>z9='/*3M8687Zks!<Z`dm)^d0gykB;wR7sWwsS<=s
>%T.fj^Ii?Fw$.ne>gUU<|<P]`ouh)%A.CeX9JZ7(I$tzk*98iWup/yn#0GZJGON=:/X9Ff@`IfPz2vKAZOn~At;|X_Tg5];xbsab%+jGYCyqr6hxZ5Kn%
Y[iThWa=XDO4it+SF(/%<jj^_kTtW1=T`$ZKPJc1uLPrK,ytu[BB7>EVw(WbqOGyAX?jddU)]X9RX7zDL,6+qA$/l:JNg(!~s:Qjs4mv(gfd7jCC+s3gW9
&8GFspGH'clBeL|BlYBLJ'P[:$_*wbU!*6:)C,U86SYTKLKe5Q7%n1@p$])_XPBmxZPMfbEAv;eys1edJvOg].7pk%YW_.$3=?|7!lH@O=6/'nQYz)&
B$ox`>%CXX`La'wqdSYQZg1)Cz_BLqACs&8^^x0RNXqcp[;@Q6&s$sY$o[FjEdVST^/#T_zEogcXVpgJRtJ[j5bc5,;<0)VBB/7Km:O*`je9O5?Gq?0*Ns
J=~4_'660Nw1W(iB,7#.vxD,a'BkeW+rFR:$Sg4ID[z>DWuaylRw^!6R|`@!6WEifNRxR1Tz(m:k0U;Yk%k*;tbI$2p'b/z?,O&32H|g|Dm+s)%_)L.g
9xbbZs<zgkWt4fm*LpJly;$0/tEM]9up[JFE$d80Avl`+8(>mWbqf;_Cc$Y0Y*)_#ys=L@KxubO8iySRJ,R4fo`8kYl'jdqnL9!PmWoZ@.m6=SClxHO.h
9)lyMU.C,J]i[LjmI9ricvUY3$hM5ycSo[V*3;H|%727rTfWoxlQd>1i~/XFXyt#6+hBt8KXW+&<6&@WjUjrkKCZxqV(an*991<zL~(FooVAcJ>E0dRE
9!a+']MtpaVO|2upM!xGYmja9L@2hJ>yf7oxv=3<K3jRaZxoB^&PnYPNYbJH'cg81.+QNfLKfW&P5wa!;w&CG/YttlA<)PWp#y$/BnmrKv^aHy:iS8>qOq
V]7U?hi,/NMuE9Q!&/TYI]NUbljP.8K(H3zg7F>Zy|CK_ldXJz.W5b(wZ@bgu6bH4H>&^?(;WW)9&m%kq^gLG(gf1z@?^K1sSiRFHMe5xC`nbS'U13xH
2!#5x^,eAmH(9gch6/[xyH[#5sK,cCmKrwIi=?ZHm>l.r.?L?~y*sc:T,3!6/<|lSd*LbnV1ufiY2l[Mj/APWvO1M|rZRQVV~P#G2czc6~#Lk>X*;d[KL
Ypd;c10?5>^iO767O~>rqqY|^&X2uYXa,QxO(6x1|!g2dEkg!B4+sBcOp.eTjpa&j2d.9L|%`G|`JJ._~SL$,<+.c=:QWL%bO?xfvv|dHHV&u6[#ms_]f|
=?,I>SqH!n~Qj75bJ<S~IkIM/r4d8QM$G%D5Q1xoV>|Ykt#UusgY,/LZ$E'Do(87sQUKqY3oT]hhDBALVo+ZsQ]uZsooSTgAuZWCaAIQmrqc]?zm.X+=
=$o.g7gii<#MBdh?=yQ~kvFcXsifdg|tTB@~hfh[P]0%'E@Lg~%U!G9IBvLLg.Wl@gi%GNFF7'.z9|>cdSqm*DQcf9`cg6[]3[y%wrloBbbD<62NDbvi
2u:^*1(:nrn|?;:6|upbj]G[9=UXo4OWP,9Hos1Tb7t;(TfG,v!kZ`P]#he6|yC=&~,/]Jd>%9#^@duf4=[sz/|UK!4QQ.>CxzqIzR!)7(m)PPZx3G79
N`vX<2Pdu5eUHnLh_Gcz*i[fhgXg4DtumwTeooviNAH$nV6M71HAJRVOKli$.v4nW%A<+A=ksB<#;v_BIn&XK:[fXB!hVAIC&=8fR2<]eOs)(7!xzmiwPL
Yz/bfS._se$gP/P1Y_$'gE|+6(F<&I^l'gN+n^lUD_G;7VQrsvReujTEj9PLUgLl<|9Y8I][I6Aa>p#L9?=`WsN)PND/:Ix_5wej<3+gxL#6%&tunKEf
7+vF?5'JD(Rrq)7F37<5c@s@OP.n>>)NqizSHY_m~E2y9ZQ3N,,U2.?P~_jS_8H9T9aZbWcm?2[Jk+=!],=UAQ3`d*(T#=#kqJ`&sQ?JcN.OJ,qEC[$2q~
0Q7OP'?z_~!I?^sYp3e^uLo4@dKm+]Oz3)D;<;a(nRad_4;TjUBrz*D9qA|)cTizryx<Y)V9lMDmKXJfzO/kIhyF9~1dSzU4ju3;_QM_1QC>SnG0kz%[k!
XQA*Cts5qesX?/e7rjYDSnitnKLV)EHE3cu4jH:KV;zS9(BE;s[m=q1g$%8xZRx;U*LZ4D557#/;eZsy8ells#0sVSjL@SEZwz]Uo&~!bO1/|UIc6;EnFt
2#L#&4I!+x1wlr)><|]gzQ*jVX)Ip]3tm7bw_:[d@)^vXxrwg*j0m3j7?1$hMp#Yafiv319w1T/F%(+#cN$fTdTyY0SRRT.%+T>fl6MRK`lZZlZr,=p@vI
Tw:H*h3v*ZXK=,dOeqkGCP4+l]=eMXieKsJ,6aZ9w5Dxa7;4T59,^lCd(,ya!`W7tb=Cu3D*S+oZ~6NBJDKbu%iZRU[7*#:SE%[>l36tR|qY9;3LaQHili
2w8>r0<GtDPSt,62Xf?$sd!7_6'%aZFdPwlbEaVY2d^ag^^u*bv;4piC4q#+[2P:+aE'?Wne1lDQ*y]z[heN/)N:>[KD~/+]JQj<f&P,Cn,#`6WZMg|
C_$,~9UYgdVz4=zhJ=7xej3,=^*t5n?6ZL1yPfGZ5`I,3.JopCnBck*P&ptm_n7`z20#rb+ijLXP1>(z9=Y6PnxO0i1,kUN@XhVJaHw`8b|xZ;
1x/|b`gz$1wr0/^/nypO/XiwmdB3>',Seu'&)RNRAMT@wxKO`w:t!uoXqJY/F@``<L60h1XWAd,oHU+4LE@p4|zVR<Ubr&ss;zQbY0BGS:2(Ri]DlDFc
Il`xM:cn|IzE3>_5S_!iaVcE74hkvD9ty.%o;#MH;iZANLk_3vRY|,FtJ42u]ynJrrVOuXl~A]|hgAAodpy9nnFY0Z:pM3_xg2OW%&UF<*<Dut^AHPB__
UnS`rV7c0Lnc@BLfV8A328|kSY/`~Nl6%t3Yd8e:&(%rH4sW0+$]8dL[7[<hysUGJ`&pno(DI,<fIX3IhPU[xK_on9.7XRNc3PeMyIeu,>HSxDg;y9X$&X
0AepBfLR30lY]?dqfQZ$$fB!17ODVaM;7PYsaVmt)eD>Dx(YcUS>ERzVcCiW+B!3ciLuX?]K+%%UXt=@I'KL2Qz39YPtqj?p'//GDn@w5UO;$f/iSHupMN
>h0aN|8!1RxK<+kvdY~325JfcRP*Fti`U?VG@q<+pWDsGRnuwj)8XaS7GZenj|Q.aVZYL*K&]wP`~x*^knAX8h<PZpLN6fBcujPiiAn)Lb#I^;k'Q]eixd
EJQ=*ciZh|H^yo'HP^%UoD]d(CohR5s*$D,4s(,$qTuo10A.<hM0fYH0@ie/|TAQZY'Q2F]l@oQ%SsMNpnvyQaGKkPbJ(m'<#8p$8t?C,xJ#4D7x_!ww
Vq*iq8p$9T)DrhK%t+|k6`1OszEyh(!&3j'fP:~%>dWWDP%g@+(@LcW3A7,5|h:3.Uksh>!jg4b]y~w'slC<e+'/Tp>)WgksCfe/?4Ht~y<yF/!36Ekz1*
XS0Ujt7xXf7i=rK_wE]FJ@'!F8ciF1xf&f`+y2Kp_[/<YFxU7rqpGLu?|Z)!bQMG~v`'kT8j$>@ONgUJf.)dp_22DktbcZy$keS819G>,wE(fzL?|^[:j
Z/>FWk?XIRNUZtHSn:+B@Q$]f%Mpi~c3b|B['*75ocLnIW.;3yppq9?jNDri_VJt&vJ4N8`VA~].+j_hq=$$4jI**rS&dryc#>tNMk0O~eD%p<fTJonC]
[e='?suRqPY%kADh*E1QD:ZYhe,4rwScP!%#YE`l.<cP.LItnstmNcu|Y,4uKsZQ6dO?jEp'aBbfAH@[~hWB&]qldv@fjquP6<?pW]#y'(Gfv49n+JGj4X
=(wIa:NIQlN&z>6x7d'G=cTYIBb637fhpJEB^[&n>9];0j$VV(|/PXKwgC^?|^UZ`FaYf,k@h.GqkHVQ4]:RIAVs&IYKY)E/=Zb.@V9PaV)$3MLBJpzcBn
KO'q06uRa;R3FK+vvt(aFW]mC:;'UfV8=c^H#y%*jn9Z2B?jI`GZfz]u8F^/>E:g8x52i!dA/gTl1IsDsCBX1e:j)j`6Y9X7vheryECZPyt^#Dc~_I[i+#
]bo%BuJtVg+!fHGfl%FC2.f|:9*N2#c;GVj.696`JK$fMLG;*v'5Ao6whlxjN[6'fvf?=8#d]8k(/HH75,nfi8bt*8M)V6c;takaZ7[r.f#Y|jkT6WLAe'
U~qz*Lv&(cX&uoh+N0/yiK#0x,$D[44UeGp%0aRVz8ux20=.0jf_VB!MH(z>dGHkt0(76g2DHAd1uZ,#f>%e^9oNNc90xb:2GA5xdrlw'3<!7@5?2_c^#W
4(XW>`''kUw8<_htLw>Hs8%lKZ@`(58L2aSqVpwApr=?W.haQP9i0iDJ]Z/dyY[L|=;G]a0?i):?!f,BkJc*[dGdDBJpE3&LP4])U.DQaR%^5F!K`xms**
K>^;,m0ey74XVFW&U5r^1|V*'ih.O@#1|'F*XAyf1Q:hPxs9C|,+QxTYD22O?2&8@i;+aP/4Ug.e_wP@T5#t5wl%v!.~bM#H[rgMC~Lx8HP~0%Dt1+7MC
Eazpj&_lfYC.FV0FNF2Mp<)hLjW^8_6VE>QQ!bf%rfAgvkMSGL&hOz2<kX702o1(R34cUXBl8`NrpzC#oyQSw](q,S6IHBD/J(WfD&cTcIpX=9oQ';m]nf
K!0U'g#aeN/k+U%eQb;5JdKn?DG<qe*rIe>i`yPRJ/('|Hj#V|~$fG(kyI=c(tOYr)6BJ76U9h8SeB$(RuyL,1%[qvUK;|'uGTf3Xi0grl?3Nwb,Yr1oJ&
=@1#Y^UA+8H^T:XW?3J`I#pRbN#jisvKlP9W8]2+Y9`=fJ/dt^r'8f'I6=gu!fRYif!?(q>EbMdnW[|>piN_g@,F<Khl'=jk2QWy0LvP'YiScF>%'I5FC]
2NVw*>z**|1GhdZ,qdj5ODq?',s!wB`0ZqNh3VTCXlrhB9YIB%wr[a+c3jN2xNrm9Sj`?@pm';q`A?7f[.&3tu$<'n4HzW2Fr2B^%Ov+Pg8)3Z#d:X,ic
]*I&f8C=9n/UO9HmM*=ZMM%eW598NT5E*GkTiI`'<)?*,90DW$FeG>nY0%Wx.%US!<8h+f8*7B(IHUNaia+sfGt&/21nWgUc^mRhbEQiWN+pnB)23iMz2
%x*/<'LyLhVb11]K0)Uyl,>:gt#h&^vE*>ed/Tm5HlAb0L`NUf,y>a$U,PbluEL5gM'xs]N$z.8%+f0dzKjiMH^3G$9aP#a@[>pp54MO3yuh;Syn,Z&WY9
0R(=cLwW]!Sx4;1ikmUfa36KnyDsAvl:'y#I,%[@Y:EuH@,&BJ_!9&u5|Ndzf:F6#JYXgB8d$N#^8A@cIEYPm)6gT~)%x@`#gPDU$$rUp[X6MAeJye)1o5
LVh,$z4F,WJP`:TYg+.cc[URd=sk&*6_b6bL?&pP9!^E$Kr2E~VACdECn)sVwyJ'|E34M.h=]43Uh/PhAhFs2$RAY6&?Iv)Fg'f<zY3<i)llwwE8x@`GHd
XPc08ge?Skw!UIou<k%!4q?I?@uTAfJs`GCFtpjy@Fd%tUP?_QBPc9B^ObO0xmB~7]FQDIQl[yT/MsqlGrY,;FbWaGZbNJI+zxEeq<ZUOh0h9w7O19mZL.
8A))x+%#Z7+uV,=lu1y3k_7U6|Ip0UODLF4#q!Xx`t/>``2HP?/mqFQx^m]bYtwUAvRCLlrX~lT_,wRq?D0DwzRVQ@FL2rD2^91!HfcB1&Y7)i.8o3!jV?
1z|)9[_vnKR,1bSVT?*r[C4i5u!nq]e$Zm]`2r$SRDl*]B9<1iw5dbZ?a*$:O#*NKN>h`N=ZQlYo_m>,^5%pj_h*]:+G&BSyfs?B=4g%G=obPh7
Vy*v,uv/PyT/X3b+V*hB@&zI0(l30VcZmVLK7?,C!%Y/%KTou^JfwkhLiwT[Ky=HSC;h/^5^OCP3PG5@KeaRG(.+H;mrPC?_b~sHv@yVfro*u3yMg<W
]y.@eu/oqp!785n30fa4S'q/xsIHO<^!%t!d;uv^'NVb!n*XRL^2Ww~>FF$D@95Nb[O)yY:7lDAd+l2sSFTTDmi|KAI?;|npAkF.!0'9U1'8&_WncVfy
Yc)M)iI1B$1.FJMLU)/jH%=^%b'Ax=Y>0dZ<wBnyE/f*9!w$s8kKAQ$`KjNq5!J709l_mkl16PhC8oj?43uT<0$Zz^h)0FvCTuQa%xlJmlF[P`08^MTz%3
EQUhSETG|<i|cDR;f6Xdlg@#OkT8JSP|nKyJJ83Sb>r(=#=O,!9uz#Jf3Qgi*Y>1Q3!>Cot`5:pFU<FCoVG2hu%E~rlphio%?e$d6kkB^tvC6@O[7(P1zL
9W#y[837rMyNw``#O)%gqCkTcm#:M`SRfVY]88/r?bkI:nl'=Kq!Wo^]Sn(dXnTEM/T&I[wF2,(GQWh_?|$<3JL4R=xV:w43Z7=!o`6'Z>=Q+4@Z;s)X9U
[CN)uK3.(vc^H8>DRQ<^izIioNi+&OW!OCLD|P!6Vn1<6Sn;2G`jPu2M%J=K|QZP6Ik5Zel=|M^19?5>FIZJEjw&G2v@60h&^o9Wx$7a4UZ+jV%Td2KG
Z,`ni=GkHmVfqk[I+horrqkqNZi?=mx3`iLQ1x(m6?]'g|F^REfz88U9#Q@eY4B]|!rir&RnrLjlKbnV`_Ul~)$Kg6;F@LP>x:Sp@U;p:Jr=U%fHslQ!5
5qQkyAFvz1;V[1'U~+vrghVwa9yjD7S<~$s1uQ'zZb7!#+*/'XA^Ir@*fr!i>w&4kz%w`?D%9pEy<]6dSg/;r[!&]Emh0xVpS=$(a`EfCjy5(JVRkDQt)%
ELLD6Tei77229#.ck'j=226u`42e`Iw^[2~1<M05PThRIcck'4h4*`&`~_RUFt*R5RIInhSj>P]'0:=;Fdx?KfzM$j<;RKgKv~?C_r9=LN#,PtPLe2.?
F_a$TCB,aS[YS9>(3fY;vujqlz,VgGfK^6Iga/#:Ze>|W,:hg/uK'kb>t4mhiQ`%d]Nz,GYmbTjRVhmV?bCZ`fzy#RIH~#g~E<0fYX6P2D:6]kG
=)@fqipmIqK_1x2eq[f+:~$NW168`i<:_&7P)sWNa)dB8>x!Ls<4/y(FM'rRpRjnn0?%sQ6OLfgRk6?i>3.Adt1QB=csg%3`bqYhD36C6cIGp*/n$XG3n
%zYQG>NgpM!jK+[(MiPraR^FSqhL8P[P!V,N`cCYvd*vv`?kcf`<ePY=#9<Tf0B_0J$sO<vzQRGM^>j2_SG^BddR^wZ4wGZ)ChI@j&3|mYpyVK|KXNKDPK
VdG@|B484=9c?)*;eDb#sA82:,7$g9%3&8W'J)E^nQ9sH&E)Vk9Ahm9,$D:.jb%=1Dmk'#ct,5#$*]|j!fV#Jn8<aO5O_tz9~a/2%5UK&=$3?gfD;q0lI
4^4hM%sMI.M$goVGtf3VE]Y[|(7TWn(PhGqDMY8T@<2PHvaguj5sp)V015C7RYGwIq/4_1nR#;K(!E_,usuJHK?F1<!PD6rKhI!)9VbW>(uJ:vt/w<g$
Xmy6waO1>&Sx=S4j$B$P1,<q2p!N]T$Oh_mNB6Er.fU4b8a_TYpIc'i#yc#7(U^4G?3%f0*Ho6gUVB@Zxgy,;`]'DpUUk~#8M'*lNaP`|YHevEWTC><Q~]
EEL]12foM4#'e~eeg+GIrS0fo8u1;fKo0zOG.!lG;xLVS0vgcI4CF;EdJivBr5zx9qF=YOSA(_o+B<SfRcs_O,#.&`nMT/be2!4Ab63(wGvm^Z;!`]3vG
[llL$dr<@Xn'rReEN[z,k(h1+0b?YL>_PR,iet+w8=E/)Tai!HIXZHgb4YyjU:^$Ysf&KtGbM!K!6e$_IW#I`4+8vD>F:)EJ/gRNnKkN&e5,qT>D=8_mw<
MTRemH*h;8a46d'otSv(G9Y#qA|p/My'is;1F))du8OwL7m'+1oME<Ha*%KnP,2m8)2zS1',8$<LZgY7k>IN<Q8(8qV^*R|?Rk8b6NqIn6nZy.O1*TJ1iw
21qaI(ZXTMVp5:Mo%3_7b?y0B2,cSB>f**HKJwD]2Uh5!**$yuCoV/+o5)^aO7.tkdyf`5psC%#J:,:F>n|I6QhS)kcSrF!9_v:8N.BR|LL0;/q=a(tEPu
OFG@CukM9&_~fn95.9+$%9vOq].<B]TSJDSq6]GXMjFbaYWZq#C_X[=HZZ'Xh1n`7Z$!#J]/2(pfGtpB(&o>59OW(_5Q^k_M<uNK&HUciQanc^W.h<vE6
Q`B.H>mpD#r31COnQZnGBbPbt%k<iM@*f=YT@>5UujUSpAlFy~j09)OR]7mb:8)49%X6*[_8Q@*jPN+X3mk($],MGR`dTb+(_Pgod,cselF(e_O;69,cyC
YZMxSGSVs.H+@$oo8l#Z!,lxuQ;gqkMSz_(L?'w<Irdcvy|raR$#I.z4:JCf'9x|V`3o|XRg^(~B7Z?3=2+%i49YO5@2^mS8=UGWC+]2DNG8B:pn7=.?
?pl+;+eHkaH,p`'Js=RfI!o<Unh#m*7Q1CRL23XQ0VjfW'rjBVh6''(JyJuGlvOp+,Q4TXDUIwmg$qV,m=UnR>vAMb'3O3e)x%a=]e!=5SiXs95,&/.Jm&
>V7'_Y4#3h#g#OV;etBuh`&);^Wts,~9j0p/7)8rp6Nym52qU:)jDiqf20p8~iNo+W%ML>LcMyKV'^Ji)`kNVc,s;@6mS)!h`.|Hl]UKB><Ke^/9+|FEAH
A!m@k!x2XG:n118,718(tRM=zrm_zs]+;)L?l`:$kLaG~)$2wl1c:E?#a[wi~_#<<xj.O48j3JH2.AeT?q&VN^8#>?.N/~Gz+G(H`L9&<g]Qh5(,k6;I9
F#@r_7w1*0AA%kOp2%1w#jgcKa*3H)fO3M<9SY!)l9JkQ6tBs]QE~fE+sOyI5u#)E3JR<[E_m4a5A)6Rz&~EASbXCtDzirpY/24|?:PF[kFr@k+ohO,=RO
1!JX$oAE:CKi_JQP%jK0&+[^NVdK/<A6kvo_,8QNwP^Urw*~x3!_;gycI0hY25NQuqFGJPh8%]paeQ4GVrS8FG&`rv67o91[pkB/yk/!dM39W(CO_oT74
2,U2U9@kOZ#ahdKz/I=_UhYA_WW(;C1H>y1h(Act?#y<8&$P4lkA)8;3Vev2tVRuE`@u,WnZ,VI6qR#y*3*wMyLRFPwBV1X0[~eII(z*idBzC2j&)?$(p?
=j95E(FQ7Fk?CdrAB(Fyi<wAmDOTx)JPe.!Iv61L'x7$t4R_<DD0XqB(Yj%s/M.0(hC*SA#9S:l4OP]Ka;6&a;>G$.7?7O0:swL.'D!scxVHbzaEfIfsem
8KkdvcM]][4>l8afosU=yc=z5B%IwHF$/b&<7jj;W=O;y#5,oo:h3;;mNK]6.5?0%74P|C`@Y5lH8Gsg+,BXCUw;@s``C_NaYV_y%8X8l?%#/GBX),
2mdx^7CT>!Cj:CDbt.xA[Id`/]Ql;|_d`i3ua&n*%LjW[|aMo6*5L#_+p8<j+?]0'cueLa~#hiGti]yWpm_ijo:|8TlGWp)5AS2Q4[Nz6<_BO@
<c;$*_/#t!drH[ti13!D*[U:gP(d5Y!8wFvdA(3/T5h:i7k?;HDFZ|U:2d?i<'?<pRydau^/;~$7%dVSfBR9,u$wYB,eB3<Vt=._7%Ibm(rf#E^@l^GQ4
J+X==a7#3/L69pXTpj^2KIhjnTzvVj!sZ`o&'%~=BStu/c<b1nUA2N6((w3E*oIfIcqhH5@ymoFL_1i)ZgPIp5!7I$DCk;egDS/jl4pAD5A1SlpouQkN09
JX%Hnc7Z57Oix%rtn<QjZan'om%m2j`miqr|._74TGx?HP.X.n&($IccRC>e'z8~qU&L5%:OUF&dSEeUD??Hi4)<Ak7q'p#zDYUku@:sB=<|lTpk<#~:I~
Cahq7VG2DYv=uhk>&'cpt6lXRO?<bLimk|[WD&~FN1aFZX!<0$L5:^,5!LsKFgGagY3O6lcORD!wRn$lThtXEx(?XssR/_LVZ((h'gs.tN%GMaX4xDYJ
T/od[6i4.aLZ^IX`oAxK2WL3gG>CDEj@D_0C7hR</JS:PHLGH5%,AsVR[m5AaWK3Su7j3NS3x#frxvS)8vU?UGAJ'z;n&)A].Y9z[o*5Br>ec?iNP+i]w'
JS;wC78QX*c5yKdu<^83r$_+3pX9+zIh:Wus2H9D5x4n:&DiWS/Pn,n?oH(wXGndUFL]l)<wn!svb^krj#ye&*;Q`NlkSb/!TZONI&46!z^%D=*?)r_+vn
&|*^E0lm1+CIg|K)`0*BuzGEn568)>xa0D+X43zuz]`gLQ?86G%[4Z7qCpWOZT8Ae~!/v|+0kj0VujWU`M?w2Kf@3O0Bk8W#Le>8BasS_C~^@2s@l/Mg
&zdyzdqZjH[$0f2J/(>;A!Ew#1:KF$B|Q,up2=C*(FT_h:FNKQXRdG40Qbd>%XT@'BGPhwZF('U%MxH/3xk.ri;BI,w%h!&/GhpF'I<G6/|^Oaz<U^Z?DX
7R&b96MVnzr>q/]<J)sX~59QY&L#bmBILdkS6eW+4;IZM'B7BFl_9L`jq4DX3fL!YQzo%r>T?,990(CN2ufa0sM76K|E?C>rQy/a.zlqyAz$YuF(F)v$YB
9!x,O@t*vDvd:T5|;<pw+gzFmd18nfHXvKbHGk*tllEhwuDF6J>T*p)'N<Q?4~SHTL11JT5C;F)jl+!gLW*jENRAxgdQ9GmCb|#r.wdKklJ;2%(Xemir
7.x%=U,Ap#BXXb4OHsNlIyBRI=GqP_vx%U6tJ&$PWL&'@*ffF@R@UK8T(?$9drI/#`Hj08=_D_PzAa~(RIQc!'o0;esUu)!NbmU/n*zQ)!q>whR+0[@|CK
Vo95z'D~JC.k.U&$/OcRTM8EX$20/O1W.8,O[za1eg3QVKI0h>Md]m;0RaGR%o+dl,X9$#&#6xZj%Qja`kQD:3I9cY|cG@mq#AU`fg'6TFsNQI!qD+@j;)
SmaoMdkS/s=$7)=#b)K6Tlqa$uK1uMYSCR(wG;~zSK?a8Uuh8cp)XUC&QDvVDXcmW[3*V95se.4nN~LJLI^%(&^pcs@1srDh92umR<#=u[:q`$cF*`xd^
TfqwH:7Qr+iY^`SF0qkyMNSvv>,OCfL,DodNs1S7x>))$0<.s;qFsJd!kWVM%ee2[8E92|DJ0SnfH]xQ)0|Py=8use@<lEI.4>yL!5FO)K.Vt[EA[CZ'e=
KXz%sR0U_f#~M6yB3*b2~5gLC'+O0=.DhwYc:i1?n=~4>icEz)!_TPc9o~c)?AA*Yu@l$wPTdy;1dtT#xUZ2BG<Cd@b.IcvMvAQB.M_PY^BUt8I3P+iSt
Bab5MHoOB/j0mDj;_9&uOCMGnA]_1<<EyFj]s3u;p,v2/Oia(gPv@#<1<n@Z,v[JhrlvsLct]zjSxWmqc2;4*Ru>y2)a)Fs<PfjK:tcVV:ejvo:=W5*a>F
(dlg_JLIrzynJZC#)MaP;m3[xz?GLjGw7Z)fM/Cy7?RDjWl]7C6HcFkT1%%t!7_3]cC`3X4di)09lv&ZW0Le,=0I|'&Qpi?s2=KV.|amld5%6:=CPrH
&qgg#(a2ej0^g&9_*]]x*:e]cF5l@]b9D$PKw</;;@[1T)U5N$*Ko)xDLD<kS0./??>xg;Umj)~[?VHoj<8!3tZd':crGPQ0l6ns3Ht4#,)P;~VhD@2(f
1dQh%K:3p`(At^:Uw:Uw:bT<u*x:s|IBJI#zP4KUnU`j1z;c%>my[@AENES;HYS3qd36.vetpjYV#`,VB$(,~h6@K?pT>Y7<M`v(xl$Qv8AuQNw;Rt!aQQ
6M<YEgnBfuT_Ekk:buu/(R3E@yyOY&uV6D/WEiSV.s,_&H^5/:Cw(;O0$;dZ_KiD/Sg;Rt]mV!5d=&tjukD[B$]ikWOszQV<<||kHu>y/)ZEQ(uD:!a[U
Y)','lsB^xd;@F@d2dzjgMNInf;FNBDd$PUwucT2Vj8'Tg^P.BLJC#[4F3f|plDT2WCClIRXj7/.`aADGh4jbGAWh|Gix>KghI_1RyR;]FR|k*5h(`h,B
UzhT'4`5FmC)@lVA0bf$.jZq/yK$wkgGRQn[[_>&bG~[m0JRJJPE_4ZqGF=Zn=nGKq2p~MFc*faAyjo2SKC7dToP8_Q`:=0]&z;cNN9$@EOzd03=*=.:
[ceosY;k9%mXRN;Sdi5syS+ej4KJz3d]w#_w.CVPBJMTh+1+#I!:O_OeYp?A:q=HjiX*[lXLk8fyyS>WICn,]PASsH=i&]!)hIU85`5YbFQdDKm*&TD@Be
E]Qiu8g_C(Mglek3(~#1A1JV[Z@B1!uEBoCyOps;A+#9X'EDCLa/x@4N*kbIBb'/4g1l8SFF1:Pgfp^Uo.ho|Z8&c?Q#?/mlOh:_7l/#R#Y$saVuk!_:
N+;UIti`AlY8bHDHH@ql9.Pa[:ui~YvP4S(QU(v8A&*mzzzK<h;h7<%iZ^Id't>9KA3KN:EG&W?ylM@j'p:&u#>1Aj+ufw!9xCO`Pk|;)Fv5Cg@$xARwF5
Ex+pTDT4Q(^R8B1`$5XIy(oqqa*9T[H?i8:U746>Ov=@)!s^HYnmG#1r|i(K~)IzadGT3/3i1#gqIqyma.r`)n4+j4XS5%bX7u)w<^JI=vfM3m]>aFpd
Ig$zcbHlOI*8sNZKe*RFzqc]XXoWlocA9Ju4x/Jk3C;v$7m'[REBq;yIkpME%3%G:7MeOLYILEYu2Hich#RN1,8+bE_xb4pm<5^:Fv@'Q5l/v9.PwD)Rk
3'L+|CxD<pF0I++d3QVAejQWCR6T+WH3_(~f;F|b%oCE`e)?>YY;p4#;<yfJA$euH<5a'd5T`i+:d/)$Thg(?=IL*t'>tVRLvDrkA;8Nz7fZL(>f:<b0!
[zuS#Ou:=uFA%]WWtoEbOu$gENI:)LAb@uzmlev2m2'(+$cM%O_q|rx/y^n;1RkdZan$Z<M2S^wPDz53ki)uEP+@Y+*zEb(l]o2XY1PlF91,C?G/e89.
N:q:X>I!q(2fyMSN6xGK<Z$CCkos(uAr^BtzveGp[z@n@h:._$TnRWKDBrHYDYt<%~c7HnY_?zea|<yrzbJHloWtH$e_:nPHW+,w8TczbX(!9BY;TFPl!
[qt+BL1@VEOl,R+$/x(DoBNMEEbAu<w?h%/%E.N5=iK.q:s_uX/k0lp+h=Wx777AOnTtsVamAgmyc6<oHja?^m*)vBKrMtZKZb()na<!|+2Ga@vmfrtl
Cezq<jSIO!sy^%pWj:St0's'#G;+D#Ohe!aT5h[<,%uXxOc/L?O7|g:B)oO5*~?pA~*O5c``Sw`H;8m4_]Gv0IZHX+BaD8:HH|~Hbd;Ro.eDGuhTbTNNL
1ns<'#HutcLV*%bEs1|=ge#.BP|xr>GRlU/AA<>W/%NP^JjF$RJw+Ze'V8Vej?LyVY88B4ozObCf@7qO3Yx@WRVw9A87!~?OXgPWpf$Kyp&`h&W<CQ@WsU
&TS*%LuHVExOt584~&5km0B$?eUG(p3^/y`#pQ^Of4dyNq|%(9/`aV^CM2dHZ|TX<l2Gbzk>ATb;UcU.Xi.4JAYXi9&|[:PUsmN<7k(7u@$MzF'tYnsP~~
Cf5>=n]Mne))|jyz$EoAXe1|Ly&?obLIqg!Vy)[B!%U2E@9MWN0O188W'Zv`/e2Q5j`d9ewm8c=*'@E9GZk%KIf:_8aA[yt/^I%3/ZyX%tVHAeL3U#.
4i|^5eJ_?DI+p|z@:VcK!k.N<MrwH0bCOs`mL|pf%KLnW/_g8MFgtclK[Zx1II/uFwDCd~E/L9VI!03p1nn@3*>fH.GB,KXum8Rc]aHaP>.dpB2'JhH(k(
THSm<B,G5btw2N=>@v/_`0J>$=o>=1Fu_V1]*=p_7z:#|Flyr_0WeSc/V]ACf=XEL~$g1CJD:IJ79bl9UOisE!f`;/[Y<~wmw+khX02E`]'j1IeL4a`Ze|
Wh%v)u@X&.n($0#.~K:Pl'EVp?_E%1|>+.'F:R@1Vt.=nIP=?N>MHoLud7D*kHDT&(Ea+v.59rXr<+f6a,kPn5SBp+6y25hs$46J$ApNDPI28+DeOmiQz/
Ff=!GDYO/<[~@j:R&o|9@M_])Vl^2DT=>@'imp5AQt`85VL0H~v%diUEtEL0s4#~LqVKu.:!70mZdA)hW5ZlD;Nrug3T!Qo[T3d_E'&]aIU(Lw!>1J!*lG
VHgU7EyRN>?y+]A|xG;'zpzKd[Hza|.c;@8*gMt+l]Qg%i#WUbj=,'2@z8l;r?vC$iuYO`nFYi1cOX=!FFp>lF`#=~F_PmLjr:<sx_.X8NSgSo+~_uJsqO
K@Wh3$3!<8C.64QMkr(I0>um;xt^(JP$Y!2&XH=~9JMI!71pKs`YssGMZXpB8X!Ne)Zcr0,AFX34d^1&kSjt*,,7b)Rl8ygtTNHC1'LJf./DSp,G&)T7uE
1B,O]uKb6$9G`/<ZZkXcnPF>sYt,LhucJ?0V#18ES%h9POmm#t5aSX8UcnlRx<x3aHLx'#pYF*m|6$qDMu_K9IPM3'9K88S?Kb'@!FbMrzLB4@g,oxgA
7ui]VKlF/l&1LzZ4l9kwj+roe!a0YH5#:x%?>$azUo=!*<[)j2zP.V4bCbOo?z;,wj#T)_;RllMSC6o>BrLVErP1[J!|jD(o,38bAiCQ)v~?R'nPal]*w%
?V~,+1w`n9gS73O]yvg|zoKm&P|;3>!_On8..xUs*gudxoV76YeBA3[6.a*xDm7t$_VFMapf.m8z15`?f?Mt,yimDP?7V`=X(lr7n^~|(tPwSwMG|RyRS+
UIc+CAddL[S)a1)U$B)@&cTbMU$l9rye;xj[E?qS$A2$e?:l&s0<><'S(Voz:#|_4+kuI<$Uf@5^f.4O^Y&:p+ul%+b(|4qzPai=[mgC=aiHxG93LO?Ukv
A(S4>mMSx)cGk)!D[&O:tG&e?_#8P>vE)[*idKY3V?os<bugG@Dz3*TNa=Ha;o&8|TFoOpfx2p,dVz:y]=J=RwqTCpwk~N`Hwz2[P0oYmCEgC~`=kXac(|
%MinwrFNm`D>#2)`($XWwd=AC2zq,<7==#@K7zR4h_~W83^n:M>WkCwBS&pj>**hl|FE*#a3s,~Bxttx~/~'gJkjnNYhZ;N(=t@qiMetS53w,aHQ_eRT~X
Tq9h%1F^]b+TxfA_FtjJ9]x:LpJxpUj(W/RCx~mRX0ob0Ohl&*/agy6=cp0pbvR=663n%T_]O(!^%42[>gN^#vmS,X3NTn?af_41eF;s(IDdL;hn<l]e<H
=#ju<YPo`j#ayh.P0L_0)yd;LC,fN^MEl^`4V[s_zRLwTq.R+,goz+^FcS;R=__zF%Rbm],?qzp,6vR;lM]4f'~9Z^'oj![^X<EZ..:MuRR>gt6h&^
>jiyaDJ*k=hu9j`1]6ddWY=Ebf!f.@h<@d4W#CroxOyE^o#.*#mm0XXr^#k^bK2ce~('%jTN5BK>i3<8A2|@=uh^IB]5E>5ULN:d.+7&BY3rD``#16c<
0g/*4;R1qa:oP6WL^Q5ggls7nCQ,>`6m(UX$oxaT)A$'>OxiKhgu|PqiN|Lu/1@,99)m|FF(so|p(<+o_|Y<sm%g0bOtD8y.2.=d5kMrbI<qS+z]I9PSk
VmkIF*6I:Wph.(QtSI0|Q,F]rhvDYx#^Uy,JHBNWu@6lEEX8T^5L`C#I'GAI$,,p^]M)P|8+@.Oih#LU#>,S:y'g`RosqMHPmKMOf_iLH8[SjBm*>if4K!
MTUvEI]p*Kir5QgdNm@la6VMP)P]RxQ[vzRJN5'zZ>un!Gw(8]j~QP5uRbfacgb1Tq[H|T2i7a@ViPbgFo+;=w!'>(.yHIe9v$i~5a2T<NXt4~M^Gf2G;
Qoh3CQnc`:.`MvD%S1k%)KnX[L5Eb^U+h5ncF9>leP^]|:ib@,Rw;)it8TsK*qRx:DEw#EX(uw8LPt&%#@rbcJk;o>m?]%Ub6?4Z=y+4S>^(kd'O4YTZ#.
GlFDX<Rdk#N'o`XXpNno2eK5i7~pX?]]$oxdA=>g&~&tpY*i^%S5;<1Wy1e;5XgL]7LJryF>&b8ug0GH;?45WF;[#inC!j&qCU%[cZXXc[>_3_9tNUUYXT
U'[7aX'jtw^OkcvzFs`dOo;.JrOs!,/;[9;]2<F!iOqaBZ$HGcD>AUaev%6=IInlQnj0&5q|TOp|`]qQs%](a7JL9bVM?j,'_IncKYun7I.(XZSB[LJIlx
%+[@O1S(lPRdd|2wg*bpva;I~CvM5u37R`J6&FZ'bJn7K9_aLiMve2a<H:s_[S=KH:%^NB|@!/)QEToP:l6Kl74_G!fRK>|&+$BBKDB<e|st2$V4k@xU@
H*S?xj=4[#=:tWg@ikX`4tfu0cIf6ae3D5r`+NXj6aR~[#]o*8iL1EC*VxiW/rGW6Y03~YZP|Z@N2w?@@Ha!AUg7nFK(Z`Yh*/r$hKlI>!,)`2KL5CB[|@
CwWo)&]MEHulun$%C[FEE_;z=0TV>?~'Y:GmfS(N[H:!ocqt/j9+B'aT70jX*zgu'tx>tsARE4$jw]Sw:>&sQdhwBEgZNM]YQ$?4(4Ag&5Xq`b`P4/<|NE
S]_jWzp5K;s1u;Td'g`1$Fd[)[fH'?Vi#U,uT9TbR282Wo=_jHw,k|$U`$rh~bAtg!E;%d#k7C*!?PUbW';mu?gL:).I_7!>2|P3%8D_J0RdkKS*PaX!2
5.mT'pSy.qxOU`4*FW&8Ns</=(qe<%J=y.~qA_Bmrha)sz+p;2S/`)jv4@dR4k/.1/GDVO6^fr`#Z7jm(RI0)<KY~H.ZC,>$aOAb~##oz90.A]MMI^Al5o
]Y)Cu.*Gg:Uk1=heIu$lH?v9^c[?mcFK<hH=k(O2)uGRw6Y8qQIBHR;g773|PY68qx?Qg$>_*W(7R6TK]Dp$:FAfo1GzjS@@uagxBd)vN?%um]$WLS3I~
3+*I@wD5!m0fK6e2wW8Pi#SRUm?71^.HM'X!ow*ZT^_,wyg3KTVBG#Vl>FU%Vex%3=2^.'diqaXRrqIUlD1mxE<$jnfT=Cl4[_tFS4g',kT9*6m(i'[Ru=
G^l5EJ|lGy5jT),R]Y$s&]uF4yLONcN[CT%.G?C0JiVS:1w/Ea#L;g]V<ti08>xVL;#`CF2lknv/J^Nu$;%+=2;7]8QKDq8&i*G'AcR*3vXRTzTkh@agkJ
F%?mT)jLM#ZWnO8C44d;pl)X,O>k|ziw2XB4:z7O;JU#v[`dsA3jl|#rG^(XQ&h'Br++>fXs5Jw_4eg.&n~Q9s$'r&FoIJi`)RD@K|<*y+cK,8uisI/P)7
MPAJw;<yFPaAYd2L7F<b<THQ%/Y&7*Hh1LYHF~1N9]TVfFg?D!|rCp!41|WMs3u<:9XrhFghi?iT+]KHo3.Z>h*mooS;5h,^K_1a$Q~a9>DZ>+[8o/pUev
%4zygmFXcyX_gV7NQCkr^z;'t[U<B;N=>8f/lEWLqIR:RR+,3GG?]7pO)nmCzH>+$(u~0|>U85B.lXEPkWwcxos)`Y<bCb'(/Mw?_[?<*Q6'&K)nVE)
Hqfn|vc$,#;N7A4=4%''bBw@7YzL[o2TRHa<U>gc5LL,nNbxLQgv=n'+b0^><9N`/FNkn!pg_?*qM.m@m74A<('O><X'DrOenZ%iG?ksYYuZEX4(Q&k5^+
YzuU!EdMq#SI%Y~3:u/2ZaJc2fYeOD!'qELedE,n4lKWsbfM2n0G3k^iOiyfHClH>ZT'@y']YYebui>JJQ_31xyjCrV+y%wG,:K9>hw2S^*Fy4s6
V)ousg:RmEiBcA*,b2vHNp9:Skz2oLDylpW&F'S=L$ECwx$p)lzTWgxAiK`i/~w2(cIbLWvc,&#EJi<15SOkbqi';b4wB5)2n9a^p<J]UB<d2tK|YeHM,
GwS>?QHsq=@_?eL6@#tkSAvwBI8^9tX,6_>(~meE;0|=zI[@l|u?bf_[apzS([k+M$:jXE3[.@~o3mM*|[p5*zn$LvxYurawf;GLpgVsq$RW`%6B[l%xP
?^~Q;oFE.)ye<mjL>PhsiZj)g;`ZSX_rx'6LsxrA)N1,I4>y~c14.2a'AJU:Q7K#5YS:uy+'9jKhE#<4b'A8gb+_fC/X4~Sz|ug9KMzarl<`|Yyv?upXZ
Z/&(M|Q$,j<,w`E>/c/v?;W<4dTue;+GMx>7t&(0`O]w([=:;$2R3gmGk9<4aw]M,4)Za`bC41y^O'a*`OK&?['vCv.hgu8&~3o%Ny^pKy)jen'+FAUl]J
X|2kC(IZ73y,'Fw:>e`2tXCg@kn0c&sK(2uJC|jjWpt+PdU;A7l_U]BT~<M0#0[KfXs~OJ#&h6Lp<,@eKYl~K4GNrS*!=Nh.7dStqpL>B:gwKv[J#&j?BX
=NEieoWsS|dj3_ushd!Z86p<JiDh4yE*7e`r7_jq5DMEmp3p~tVp3#`gZ1JBmuz~^g5|GC'?oSZZ]bINScT1th.PNy^+6i6S[3f;Nic88qDGV=vO]o)Hl4
W<R]&]FK:C[BB0UCRC<:b;eLtW,qZLr8<u`XTMJnS89G2;'Y6q|^=9o&Iw?6yvuF1/A`=>LRg_4n23&N^d@oAn=_Bar7=Q?8f*=:!$Zer7s@>zkcbj:i1
V^WxIgSy2GB'!=KwS'co8rp@mZ20a@_#)E)jGi8?]Xx^gDX|!4sz=XpUa++uSvl%vx40O0y^Q8a.x<;+un|_wK(>c>4Dq<5,a<Nx:O>w:yM1$<U1k)$g|s
QzDg_>xN7>FeuDlX#[71=aq3>V';5M(2sH,!GYTxX.s#5,UTwb1p't$1N_2pZ*uc.+s64CrKtjs]sakV6/zMGOw!RUkA`2L(~Sp~ns|w5&5=ChuAxhvSo
VaUvM;L+ii1P<zQg%mJTf`ViH5FtV[y^oG(Z/+';3`>dnxwLtLD.|rWIC8mNi?DQuCm%%NIi^PafaljGn/p7cotQuUIRZ:jC^8~RVka`D9&*FKd,5
Wu.halZR.@580N6%CS>;IH]>mio.J%i%0Xu@J;UCKi/VU)l6IF'v&4sPiA[I$!%+xsE'=#>8(B+^]EY/pmJSgYZmIj6Fc1E!%dbl<S2Ld7aP|4&=)$B'[
0h$:HpJo;^1I'nS==xX2%n$&66Ct0=u;ba?nf#CU<5>|tt!O0OW]3V]KYC9*>xtvRD$aoOr&`2D%K^Jl8J|70hK!G9S$r<d'I&.e^vO.OSi42w6<YZyb!J
EiK@btJj//Na`1$t7tvBaYc!7!>Z6H?IJL55Vs+%kvr]pa+gg]=s*m[~u&;R>K$Z1J9kqT8.GR&ob053+^eqa2'?p&[gO3_'m_T1tm::&Ey=atXc(3Q
J@;_:hI0]2bSoUU[OI/m)+4Il$VTI?YlG;]][h$PBlqC,H(t<dJm[:/B!29MgZ<C9;KvTltazE%|WUalmm^.g%Uah,*Pr<eFY1MM1l2/DyFm57!M%=>;T
Jsw~9WYhG%I'Otg,,RA@,$_gNFGaiImyjpt0~8q9be903xd[Q>E!f@fxt&dfRA$BHHqT;yFnn4S'76ORAdk?&:ap8O/g)I:w!y64qTKJ9l0)6XnF1!JaP~
>'SJB$hMF9lLae[Z[bFT&E8FMIf]PqY2V.I~T[83cP`bHYZ15kT^`ru1+c:#AkZ5/iw~AG0tb,QuN?T94q+qx%'yqPq>FXBqbA?/=wSXRNP%%%3u,l?E!
&^:p<1F/E2ulXmg&$?A0a5t;AypKq+6^KXp%rjh3FfLMfn/KWs>LyR!CrTX|7F)AA_q/_S=Yp~uudw4VE][fd66s(0R3~`]DkP;I,`qlUOefX~l@3#)(Co
&_9fzjE]nuH5lg?m)YS7ZGie:B&gb[pCgK^m!C!*q>d<U,tkG$$%^??d7,J71zW#p/~]8cs'Y2Lxmd**1~!,egl@s`W~VS$eXW/AxfmcEgGd:a|tAWw/:`
=bjv$T!:A$'x*Oalw5%ER7NySCs*vs7yn_#m86dW|ajg0yu0*up?oy8?NvYkP=5B=KYh_7XAySV`wSptMdm4_sLz_N&cG6]XC@a0g7:hC3DJ$c[OJCo#
%o$(TPvU&,U:o]!TFx7.y@k$fE.UWLD13v_5+yAh._F`*H8x!3Pix3~0,c('YxVgA'qcK$Ks.`(jgKQXG*jbPby6M;~:_hVEL;tMAEzTT!A=$10RZI>!Os
Oj=kavA3>h@8!#LC1@7G+8olboBb:rG~+e3x4X:XZaCxE0pJ8&d&?lGWZY/<>(n#r:/9=.aM/+bZH4e9wc&zk@=_kEFs^M/AR5jsU1S&u9#*b&ZA9M,<vk
?1t1m)gjahy/t$:&d$nZb:qd/R?a^MuMo'N<jBKMG*0@AvAR,Ug^s6a,kgy^BytU%fLs_YT[$h$,#_5x7MBL6<Pcse7jf|oo/+QXgncMGZ1MPtSnK0|+<K
[QuOO2Tbujbcwnea@pB]i4W6j(~EPBUM$]E3xpvPEXC+/&UJ?O.uglb!ian8%L!RDz$_,zjQ>i/#tn<jw2GY|Z4A#ge`hE8b`aB69!8PU7qDU$)>X5EOry
R9W/6^D$eFLZ]jHW*fp;JbvIa7)d;O@jt,mMbHy'+>yjD8wlk|u&@fMv@Vdn|nr|0Pf1cWE~;LCHl^D%2@8c?#_5G0:V:%JcHzfrb8E3cChq=pR_1LFv['
KDrV*gJT@B~=a.15#<n)3.0jPxj^mAxNl12?%'b/eS4!edp8RUXjr!#,*ecWrkb.Bv!r:EeGe*!v_bx+XW^,xmU)Qw<<`J0t!D:hdu;9KW1@c`0*KY1
Idu$W8jWTzKnIGaq+0]8E/9dMIDDz>89zOMfPDFS::qlBO1'yL?G(&(k!~>A(U*V!B<NT2W+F;%qvR>%L)C7`xL?o!yoJWK&l^$(A40A|M2h_f7!USb#p
Mj7N%_1|8,xO~z1b&cF/E#us0N@&l9C|5/aVXwrn)/ZhJyfMYAPj`k)ibOhD>^V#)RC[:iSm^(zalKj`.d&#F[,y,FiEt,UQyTUel6nb7?:S:/=$U#.!I$
6&8$OS[4+eXvR/I^'c0aV~j[fG4LNl;vr`?i98q~y~.g[!G9s'gpuSi!vkh58B7sMxWv&sF`pt)Sp4UC4rd4q>m)<=`NKpWOX]Qx0K`QuD81M@t:[xKpr
Q`IqIFT(H*jOkw(0Fa~9Lb[b(+37hfH4KGpf'=6;)9$H=6B+yGY4!Mm*ih@)s<]gi2(Qbt<,s;1k=N%ET>~[wzPIR9i+=WJ1)X'Q07UKZrEWmTtqAec1s
V!krxG0RM$1P@9y|!5,v%ypoha%J2xS>*yzTEZ#hDgjjNg9KbK)nDt1T/IWimw#5nGQ]*T5i+:=3Z=Ua*&5eS5MckyPKEmT+Ays3$GkoRA>fKAP]T?79sq
I!wniTfNX$L@<UhapGMV!g2|_yCYPWM/VXN$I!PpPcqT*a6AlCijq`jKK'B9]VA9=;>]`1zyY*&Ecu6uW;vQu`ONzJ+^9hf2r+#qN]KKZsOsWG`rfaSkbO
VR,cm)X>ytrP^sWFxA;yN`$+aT>QA~F:F+;;*wUF/jMf`BE7bWC[v[erD^n%D(/y&MckR=:F7V9dj%J&aIORxQ@a6*7XoLY$z)X6$$0p]rN[`^%3~.n|D
S#80DMh%qu#JDQLPxzgVF2`(q5Lr=K>$qj[@[SF?,=hxt=VD;uDXOAT_RpJ?BPdj5Pk`!igX!@TV):s.)3C*2yQ#Aq_YRM`laThT4g;hCa)aQ0?W0aYa7
(^[<O#IhnH?RE)2*o[bJCmV_4at&y5q<S|U^X3J#dh%l#@x.J(+'IJ0I<NQc]u9&QYcj:zdf!d0WtPj7OMix@Wk=&$>v,]%A+w<EE&T]GqI<wQtfD]/bq3
22eq^Vm,3fQDXPyfvgh4.D8^klU_5blbNOep:!#dK[7))+tf.dOkgjTm9Mq[McyT6p2%!%MiMo8Qb.nuJySvu6xTk%~OW3PfrffttfU!c/#&(_`~!8b86
R*?*OMm|SNK(nP!p@]o3Ac&@Jh7A0~ByuYxxMj4*(7F7+#i&0;<F8$#tw0ZhY2$xdFqnH1t8chF?,?T'KdM.`rm8HHup_nK[/wv07nxsI%g!5wn++L*se
Ei4`fvX4=/yxU3rEpkU)UCJuS]1wTB9hD.ZwBs3=/]a4pQ$,Sk!bUx/h?+K'K$U4/K%Ps)Fye~G394_i@uHU7Up/IZy<9PS_o1k_T`Dh1_yp5Kci%Lw7!'
2*'g]~OFoz^67.<=QU()@)28zSX7|4d@DuVmNGLAzr/PyDe|v&F8FYR,?P(kce|^iRj%jLocaPk;EVD$q:Ev1]^7Rw8S;uh5N`=Pa/,c~H4LWVs;ITMV6:
4~9(9kJ!/_+MF8@/)18]ze+)n7;O^0a:xqvyf[A&w$ws?JcrD1'yH_xzu#y,GbY45ERiq_W2$A(rQjez.8xIq_^vG&v*q&$1wz5~z'hoqt;HEGqv2`Zz(
Sdb^=t`F7I,1?V$i4Q~cPu/8GCFWM`~H`Z+zqQU1B:=YO9E`gPbw2q#_p`P`S)~)AGbcObK(mgtQ#]`hc@bo'G`<xzwo[ba?g077;Q3^Av1;d/i#kFe
[$ytE8R&']$cmwcZMr:Lk|q=!qKu|`$5z=5LpQ`Em``V8A<8pXC8JjpQ.8?%JnJIk!sDQu>h@%(p;dm+C&R^.C5I8lV`+WqF09MFpDd[hz1PdcVj,MR3)
%!v|unAzpJ~5vlf6@AO]SE=,I+X>/T_s9$KU+gQ%YSES,tV0UI5aD`&@eW@Tt`<^!k@)N!f|)r!Zh9M$h&Re2HD$*W!il|.zkQx+oM6i+qH>48y:v!_e<
Ow6H$&?KT,ZRg$jRGGN6M_2;opNl6ZP38|xXLp(|j[1BSP1!vcoVeqtSHNE!xV8d$OM3p;8;87z=m'SKX6m,b>Fp1V]T7Jjj|R$@jz_7nAru$d|18B&G4~
NOr2Qh&7Ha9Q[l01VyCtDb:P<tH?3F^,UCz`8C$ofSYiD?Os!/>z]$R!>ANFu|Yr&b@[ph%0.>kU5t1m:CT/f)02=VmHc.]!e^msRzg_Nav>yg``_X+pk
7,e.Pt#nF]]';ih7goV|(_Nd~Gn7Ugg;kMVC9(!eC<t]zzzAu/mEth5WI+`)HT4OU$/*ID8lZ9RclfA(8MWacy0UG`yTFaARyQl~Z;l1aNb=0#hG#Oh[ra
EiamEYzY_7q]4?Std9J9`>#.KI*bC8|3.>|raXX./N10BWB7Gem0@Eum]S0x/<GNA~ePR1uFcgwVag<;cKT?epcrEI%'&P@d]X2^4MJP50qWpb?yG=FHcB
O:zk5MM;w[spN,rTeO!D%TaT3UqC`2^YtE^!&toFaJW[,:D]hM#1W1f(_U=xSOGE)RG;yG)~BR0/Z.$xnF0?(e9BY'~`.Y~^My1FTP^1B+`viE=iNe3R
Od/d|>*S>K?P88s`5+sbIjeVQ^B6P/@>'*8Mu#c^LE~h0TW6,o/.g;C=28AN29:XC?$Wh^mJc#5^oEP)T9ueCx^YFr0OSt2qGr)tYvdY__3X9M3dwf59<
UvYY(g%zE)'3WDjkSBAy)2ae61FDrBfSjl2AXkfh1XXp(8tb!z7:%)>av722NQ'~?|mS$F[b)3'&?Hj!swrr+c.Dv;C_Pj$:#M!kv_fV.N`taB~iTi
]^r|+mZ<sPk3[_U(GhJ`h5^]8i!_Tkk`(A|&Ke:vZ4^nEsaXj*iaUKbF#xAE&8g^D,s3;tRk8j'x^D.C<yz1ibq7NvQcE<K?`2SJ$?O2IP.R|U;,]Tupq
B.ES(uUhOYDERU>5ZJ[+(s#xRkuSDS8^Mx'+N*X,bC3BfOIi>7[Q^FA:y^CcthK=NzT~w]dt^A.|^oFi^6z]%#[$vf]ij<m2g9]h=0tFE5.rz4O<ipM![S
]u++6CTnD_;a*H2p<Z^Df!1kqnv`AK>scQaTDWl7wxwUe7M~Xc4jEc7<=NQ]&X12vMd>]t^vr+O%dM=1[WLZln)=2b1*Ug,j;V$qJS>H)@vV'yzA@sBlL&
CMzS*[HJa)]qTS_MtC~5WXv1+tAnGsg6v)RYy?,(>cLB9m#qOhdNqMU;'TAhT&TFWC79c&jM9)&<E`:'Plhp=R]+G%4L*bFn+Qv1N)J7R#hj<W!+ELt$pk
Ux1oTb>yh)YM3QYn3uZ2wI#5uufB4%5(!YrX/'7[Z<;N(|+?=jkC|_gnZ5H2*=0_,#&<@1aZI9q`)@fTF3#[JM8%S@E;2lACZ;fa?`hqgA7f:V~]yL&ko8
E2]yYa'FI$JCO~6gVo@=KYbvXEJ>L9tF7B:uzvMUnTi190yP8aGt8|8ZQ&Ew's1r4HxK/#TY'Ta+THAmblGOV4ICDh|k;&77+|M.b&Q,@e6GPZN`G+RQ)
J)w1^O~$|EKheV)O0:=;hRD;^85Z`D|hm9s=tc/Kr'7|kA&ll8V[A`?6,)*Ks]M1D.SQ0|FP/4xG<rsa^aMtDTX|pV4QCSl7GJssjxS;]Dpcu4snzC.>CP
GH:<_.Bl7@w<Xww,NO:B(MZ0cx7(R?C*P%u8dSU3]ldhqv3ypJ6h5d(7D0=%,R4V=f9Oj7YSkqMBvn@yTiN9c&J9R`l4zkaaw>]S#w:h^'1~97D,LbA;+7
XblZZ8SU/(S#$[RI[8@_UCsvSr%nkKuB)X%O0<FYA)bEL?3lOh0@K.OJrU_]oLW.fbUR<fUJ8T*oXUrLy4wprcG`>5)EuF3ryM#lh*Wt*#UD'8<[qpf?F6
X5a3))V>hShy;E<5cyu51bE'H*Wvla572ZaaANJhw2kf^1h@Im_i;XQOp)P[+#)P+12XvrY4h[NjF0Cnz+lsK7`=(=DIAcH,?;sz;$?!JaKy&ifUkkz$Q*
V][U^#N6WE6'Gq1J._jByZI@aF:9vp,2]2ZG5ioS+F$n=PeRN2]pv5hBr2.6pqO$NHZ=HCm'MMSp[s/Lf<jyzGRQsTvo`*=@Mw4X'##!iLhIH4L&w2&8>
G,x%.lz2kN]XqAwJ5d?`_M0qM4_U)/<fO@SH:;Z~x_Evg`lR*wcpvU3'YiSG2=S&`(X/F^36LJ5%Ui@%<BuyLnjFf2sp1#d+0yT6PnFZhqJVxh,rA`[*bL
C6kvA5wY1m&63de'Us:D'vMqV:4(gIkV5OkU>MF+SJe<8[c08Fj!V$!&~H?34sfTKj>Nsirn1xD^tXD[7CbvfIOl/e?8M,`mN[c6^eaRdY<s3(3L#y9Lw
3b%F.AvShkXk`9riG`7~vUN4PN2`An*o[1vXwwh6UMAdyBBB2wsHNiMF>G5^@_q^xv@c[V9V3ny69!|n)#7jirwaM1mpW:%w/_[,R']?t@|$S<`Lxwq!c=
3u46gPy+jb^q*2w($#@bQ+Rcn.bo~3@@)=4L0%Q;gAb'ct@&hk`buW4ln,0c(i[QcY;d.igZKHQ#l`s#5_Xi[w'n5by0_^dH*Q!4K6?C`fQWC.Nk?qY,
Yj;DHjj/K&.1Sx9<V%%?'RCE2bWveaZI!GG*^4*!sD2)ld@tScJ/VqU_T$^MOi6Te[SeO~iy=e1ZHCfuO?='ieRVx`zAV^ULwwnF[zxEh1~awFXBm_$(
Te:[DkJ##3$0F!Q+wn??BY~tdtvNctC>gpk1Ipg:)f`3agKD/_W&`YYwkAHi+&;^Tv>[pUXeI)dpPujK7;wR@'MuF(0633!(Bf@7#&TI=US#V/>qf%gs`b
Jm_!;oZ*HxYzV.5/?3sOQzurow;HET94&u<@[f4.pVwMz@HbS2A;&8UpeapU5E1?!z%v~>d?T<<n2YK(~tta!QPTe',m,LqiGJoRF<`>Vpg3>.XEbuToKr
Byij_&fxP(q<uPX*F=@AAx2Aty_ugg`xjr3W7ut+!RppS[c**4@0ekPBSCBJ!^5q^!oRj<Wtgdhct|9mKnvS*0sz<fiL#n'4u<%LKXCp]&pwJy
3rlt`!|puh1bO.jX?,+9la%FJ(l|6vd_@JIVEG.POBOjbRFAEI!yV.u$|+)i!fKrogO]Gk4cG|$`DyN1hbEvl@f3bQ^iyCsgO6;RS#^MDJb[MK'U2
Aie+ca/_f00(w[|#;c~$jdn^snsIs1R3^#N1Vt|V!i_]vcFb9DfZVC@<a9:P$VLsLI`O10lqw4zaz`ECMN&>O77s,m<R0[9Q0emrL'1vE(;v7I(*h>AI9
4^ut7o,_1(v>W$>B&#pJnoDIoTc13,~$@)j9^NMEBzdjg@B0u(gEvNz=e.2kD+ls54JICY_NnfE0NE;|=>L4h$?;G04<(6nZh6#&XFVS_+0#:L7C2UIs,V
&dM7UTJ(k9^9wFx0Hd)G;4Qh>Zv9jjT_F<uTWC,6dEG5Sq=^)[:ULUr|1t?kVc/C?cc|;9V_|42FjzMiUbk`XNMpijQM']*gnnDeWEW+rrk/LrRtr>=AkJ
=+*u+6E%%*~q&5HIIv=q/yOU+2/tY%'nHXar:%i:]1+i7.X<+7.[h~BA4YNpf)qqZmvlYKdg~:o#j~vh?x)Uu'|Ks*(cf./:r_E%!#1nhqS!$v4pUkxMxk
C6*f_IQj2X~;0h/g2KzSJJ=jMGh7b|^^,iIdTBu?pg$R3`Dh].7+)2/bJ'BOv#rPoL5374ly4%xM/PwATZZDOJLph5LwYnlS)I4mYp]iuAtbFe18>t^,x
V@<em`^>nbXxg(5'8%FoV,D:PHSw0fM1B2@^b,Iv%#sVMn7I&*+oO|p@:^lF;##~De,]b2jb%/bhxx:WM6Y1&zgg|.Fss~t|xuB$m*Dpt04sI'lAvm=&N
Aa<(.%o:KrCbwAl!uUG<K9M5k4!zInh^>)w~aZZPS~gW#:|n9`QvMTPqWI2&SuS4Txk&[&1jG`;:`Zo|Y0vQ[L7hA(R|lrm_t('Qs)@wf&i('7H6*l:O1|
UcotT#pON>C'iEJv#ndhMqX.x`]Nv5X50KK|9VWo=]V4tt:^)Ymi+rAjx4<8$@G]`Q)b]Suh+tFWz1WsdEf:vvc;g|LI7,bS0ggxMzQ<^U0DC%Mk=16
1/$cf!r;Y6caC&*|~Ru7Www,|$?(`uC#oeQqC;GdtT5BhlXT;*+6aF*x$;.T50aHz2>4[YTmA=O<+HYWCCW:yCMMQE`l3i7g.Ij8vr9h<|KhasPpb`3
<jdlF/~`Sc`Sx$#<tQ|G@Dg<n@NnzjwK|/6v/rw0+8C'5[iNBk5*FG'b[6OgI4r$Mm6D;%/AV`%aaN*IHSa;?CJn0d[U>.[wr*xY@OT_3:AYoqk8BQi9au
2~AQE(#D995ZicxP8E;3$<'C'J.ank0N1,o+Sgx&VvF=l3].H3)ID)2ETwW2fkh4f#F_R3UYe2O;tB(FgeeK/5AFrBp8gmm<H7uGTmZUF?F5~^tYs#tW>x
3Q@H%)i~4W|?x72KewM$u!`XohI`ZxTcU*ZX`[AcQyUL0U!;O``O[^dHHutBCs[&O&lgnx#8T,iCyJ<E&0q~p*A5X%dN<Fb;?5k.C+xQ#.drmT/6eDRGH
M#J,m:/ogW*Yq%fl.Ds[^|3[.N(#ZR>vtku4jkBC]/U&RD_s*351nw]=ylFFNMMytPEQMN/TEApKTu;FEq[hzB;d%x(>f2;U6:|]xq2a_8EsG/P=C<yCP'
1|]]ukGN_RaR4e=#JGuja&)A0^gKx=x$WfYV2gKMIAg/OTn6`vy>Bxeu.(WS&'cu`c19|5`xVqmh!j,:y*2/NZ<uxxeaFLj)2HvF:|BO9uXLuA>UZ1j8
(eanu;h6~b7_gW4&=R9HbiZcw|u6gK5Y^(rX$?)@z)9?Huz|5k$Od#DM[]N9~s6QL@1#~?~F)<UA!cZW6h^%^]ZN!+MCqT:^o:2_6JskK%S[92HH)0V3r%
F`UX&`TnW7#xl@8d.<)|sLsoP31c(52N7Fvw5kA3Zs[l&i;qKuFtxoH7(G%WKVlrA0Lu9iimnqB8R/;SqKy;85UY!n]'X[L1[m^Ah0<.y9N3(;DJ#?(8Jc
&LLEX@Wo02]l,M?GY2i89H0(Xe07xBbfpkz%u;^EieEpGZFJr5?4biCm?[&uPG8&57`QASeQ4goOTDpa~`a|n^tfw9]4C7gTZG*45dX%^pO_oXinpO,)/s
NOY@/$8O];$|/@`5R(_5$d^cb1sXOJ1;F<z@Ynh4ve7hvJx'6PsVi<)SNM=yFxTv:$d1ZeitxSV'PM*M<@Q1AqHim;GqG,Al.xk^T+mqsz)@G6e$&lZ<~3
?uWy:Jz;WBT1(.b|K(y$N=70u^0JRqi#&gt]CwqHZ95Mi[]RnainYv>ELa=MVB~G3P##T2kA(a?Ts4N=W,*N3fptiV;S^^OeG7Fy(Sl=oL&4mP]L*y5
L;_yM.rZqc:Ja;.|W#N&zp'S3(+Ox3.3A/pwH&91='5F3pZ<G=`~%>;`.E:~qR|NsQ@/;q`]MUw6*h|o1%vQYHT@vKo$cmzDP.3eK'3tb&%qRf@M'rV:8
G^eskhm6yosF^HjB%`M5/yMWP0vc3CDR3fK>:UsL+ehZWDS~wR80rML)w;O1fHH'DZ*wyTOhtR9&Nb97`fqb#K5mrN;MmU;lOKdW=/OJa'Fe@'J?vA[~5
KksL)A[g.v0M4~ZN8nLZDTpFdcuYi5.u/Q'/j%AVN>(c|EDebs3q3r?#!16t<&kI`,Z..Hgrq$]RL2k7X%<7qS::V0h6lmf'v)ZfYfYVO5]&%dhiY>xY7.
=`~OC^J60yrX]Nc59LrC~'uimY8^_F$/QG:)Or3%#GVxsgX4l~z,akORbp,@*|zv6sSpA)p?w/=ac`KB90TE0pZ'xKPI_YePpIR?Yv!G(2j@@_0h04;t,b
Zfe;lov_Z^,PC/zPmHu/,pAt4EJ@]6)/7A;JRoJgKcQA5(Jmqjuz8w<d2JG9z9Zm,)gKZHmp0@T)P?iLiwbW``d$l5@J#3lmC&[uKI*lvxManps*g!<dv@
>RymmC(qCV15PN&Ta@;2C6s>[U+vw8<4S(X!d18HeX&6/$/(d^[720]x#,eFUhrH^xJjguk_xX+^6J_17:d1N4r%`+d0D`40dp1.5,1uk^iwR/W0@&mn
D)kYFpE:]50ihV;q3aEuTzCNCCvF+g?n0`(A0$f<_F:;PCk;?cW8oh|*6dI4!%[1yClJg4J_kp[:ys1O]Tuv%F!5SPEhElhv3|_u0w?z&iBV`;2Wd~.pb~
6>oZgB@$(g%V;U]KHXCaUXH1$%zfnyybT/G8>]q]Er*:t~r!9>,1EI[cs8K$=By#=6YKrKFx_H3_IrknpR,^m>0l%C@<j`d>]rPk<?#9hfC;KNXlh1@:
]l@7T_K5Qs<1ju*POZ+fF2NzkJP&&6&:QMS`?qmbPAMRE(kY76(<Z2(k4y)4I$$d%|H#N#4NK.6]DUol|=~AqgcO/TC';V53A#5<<Lgs4v)o6CGY;3oS62
SqUq=P|2Z$3fKr/d9a'd)f~%OBqMKJ4f?|ub|;^b*^(x9x^>y50b_z|7p0^A!$lmJ[7nL>j^l,e+FmVhnw>XWAj*HQYteK*wJv8'+mP~i:u3<zkJSm;PW
K@#J:J<`|u0r(+!=O_/cMAw_9|sD?J:ud@H,upoleQ>y^e$.2r_=M0V+lZm<S]Hjp*hd7QF7r:TFerlnoRirf1oIf]_d=8(98c]!=min6%L/a
Fvd.wc.mm'R'+YkE)T.zYVH)3++^JjN'$]Yt2j(^#wQx`RpE'c)]lA^l|/0@/!@k.<Y'XOfpx66k8@snl7i.d?|KP?4#VZ;PY~*tPrdlP#pJ50zczL8
1l,m:ZlWd#HMxrSn?tV6BS[,_>]&znnCHvd)al>>Ev^$_8K%;?*z:WA4X:T''(YC~U~PgB/Die)Y>EGt&8(%gl9tPB_e|pYfU[BoA&oErVgAeNNhe:|P>W
AF^]Dy|rGDeM0$qyqdE`WD`~O#'|<(WFvS*osXUFM2p+!0hIXFa]&_HuES|2A|4v#Zs|>xw7g)Bc8zD?nJR6#D1Ov=iOSOA@mGp9/Ns'Dh<`?H.7.,@V]
1aUDx%wOQ3Kc2ny0n:sF6~nqiA~=T':qBsu`&F4>Cf1*I!l~S2YAe[ry=7m+CpbFUq3dN90vJ.Dk]#6&L~VJv;ZYV~*$ek>i?lAL=PgLafo=KMAP|Vw]GF
5+Wy`>P4#*!b2u4vuZRF$dph^.w(Lzk/:Taz1/@]9gI66:7v2EIw!YqhyI':G%x0CCA:NnPtPIRQfKF`CmGvV:w:?r<E!3F+~8c:A54MLIwT]F'.hfLboQ
1.S92Y/C#r(Rb(|P5~JROd|aCdWxfwDqrol/!l>al'e>?_4Vy!<x(Gw?p]'_,|j4ZKi=%tJchy~'##oJ((y,GJk?+0jkj9@Lt:Q?JQu'ok=QRAaX6b~A
Puu@s%nrc>6<3iH$yrjIt|4c<x#4pbh~rzY57<I^#*Mb/L,X]]c=3~1q5)0;qB[%p82=.']$~PWWg>hzhWF[8Th=M;9^jseUQRjEO8o/m^(c59m^$4F2
E)rdAgTR#7<$`AH'pS<RSW)9R9&Mw|;*QuHAdHIK>s;Z^1`^BaH)Mz4CC!o=^Ocd08w8PLzfGoPo63)OC@7ogcqiWRSVQwky?4(5STH)@=o:m(?:tPT
J!i*/hzGP]C*?Q3#zAu+yIpdBSfWU<zgm0$5q=tHh,dxUd[nvLpN8q!4W1~_%0c<5L~PNL%=2B5/3'CONs<;bL`~XYoS:svBI]&7tq#pfb9,u/Dyk,ckVc
?Hsc!yT^czd2aF<kG;DMbT[@hoWqvq^6Ekmh[<+RGYsSA!=t,MWlzm7F`l>4/Rsk;dRcRxRRw)dcXvIBbDYx48>B`lv1g:?y=qhM)sI_hqrXMPU1bUQVw+
NNQ@s^(UvI]!R^cqVPr4/FhuvCthng:oFDDCuPaY=B;7u|.dx1p+D;uR[MJ25iIN_k<IYF._D28GeWrw$u),8Sl#+jwZha#$D0R,Zfb5qb0?Z!i:~
Gqby,o640tNeKt(ET5x^#nT!Co]%?O/Js.H2h_sEH0rOmhbfEr05;=bcXf:n^Fq7hbt*F0VANY'Y^mLM3MtzNI9zrsOI@B=r1UZeK3PWY`)U(jS#9Rt![
RkiBqmesHIg)DA;,z#LEDM.:N>Y@~rx|IqocHn[.jf:aJ,c0';|9tI>Q&UY'YW(>lr5b7PBb1|:P,*m?^I$,G'rU`pB4gfNN8Le]7)kD:kZvN4ot.b$
4w;*%+pdfAM5MqxuOHR0't|MKgM38ha2Z/MEX(w#=V!Y3J2P8:XAi>Znn@ECG~SEgewwjLJjl9&Tw`LN2)@>0M6l8xg]D7O$lrLpr;T<1X,]'5s6~zAAC
Yw)`9_Of.9JS,<KhpBJtxoe>S'G<EiOFI6avD^/;Wsc6b%PRAu*2K/)9r[]Rp[zVi&rFkEF>1E>Fan=FqYcE#^f@@RAK5TL/zRJQl%V3|.k(2ZVtnu/h
5dm17i<tr_0xi`r&zyz16ozB,/6l&;pl:s(iJ'R11GZ;m8k#dk[<^^:eUkMzsx>xHUZ9(|^Kh2qHL8Ze*9u%'VK16F<d3n)|;sL9_<|kCtMeS:C~9^M6A
BxBH7^^~f*gr40Fx5&UQAfNhXTH<$M]5vH5E2jwZ|*Ece$s&|hB,A/%ME1RM$3A,^XZ|mxXPfJ,#6.78u<?J9?C?oQ&>BA))|l*<*#j0ifAw[U$k9a57W+
R.+at:gqXzB;I[$glWPZNVk|G0XM!t3zbAih8<Dq@CebSp[R|l$#+..i/t;;)Jev?z,^4?yJ$yi|63e9$zNWt0FjH!E3b~gfZXk3B~N0Z<Zvhv(yn=9j2S
Uy#1t8VQku0^>?P,t>UaH>az@|j1.IbI(w_*t5_<Ynx`;Qbhnww4FWdT@I>~%kRA7k.FUYzRu|JQLIo]I_Z3q#H)e3MO&CGK,D>8cDh~4i>9;JS&nJlZS
JgKx8LZ([?B&NNXzc=Rk+;@yiygit7JWRUw+zAyS;XvUPlU6_H[gby>jz;Z^]?1i`/>`LxSjwK4[^.;D!<ZwDAA(()d%5JQ[FUXio]`qxz=|TcU_M<p2py
]RNvJBG2ysu30w<e;O0>L5qcwk:C+;Uo^I7lz9fFynk*5l8h&+m26Zl]itZ8Ks6z$d9'h:#3>_/m1B3?En<h=ry!n?e`;RY)M@Eb!:Isa4nec,Zb5&|:~v
0;i|M3_V~`Q:q%cjeu6$[']D.Y~mH8AM#f`wt[LGka*NH0M)a;SxdXU8O!OB?X99I!07YGAMXn0Doshj9J]dv!uhu7B3=A+j(+YJP?!bZfTdA70hEO43/H
V<^kd*lJ~j[0mux|W,VNCWGs9EHM~BxQh]A;6r)PIdbM_&A[7PbLL'FbZfUNljy<UN[B_,^?x=]3P)kYR,v_W32:48ke,4L,2!%)r?6uJ0|qJQQZz:y?J
2xf?5qSBjM'pS+2'0/TdLxcPx0Jtc4!]*k9Q)//vt4O%Ut_$7do$JIwXV$tH=h8GRbPh|(A!Fz9tI_bu~Yh)s!0_Rq5E1!&`$u`1PFM5kG_KVy;yGzVhm
1w)%0A^SYan?>,:Q*]ey=.b39]^NPZGrzD|>RXN3jhu?QpU2Kr0#[u51S1/PTl&7Fp$*;?@4;p(5RY7LR<IR]?WU+Ex[hBG@L7?+#@_F(%>7?][d3%|#x
B`3#EHSI7,5)[l+u`D:Ka|Guy;D%WsWhTv:~3;q+<ghfFc|)S1bGfz)+C]KlFz<^V>L's*DF8)3CWB&6DOs`wtZC>0bbocdaFj/Z8*Qp842HkEm.S&Qu
Hoy#v2b?;~j?WMf==5*,>YBrW#RZAz:@`_co.lyb~nth6`9J4S:>EuQld%?|^fs(~x7!$OjfE|3FlGPwv=>2HF7Fs1i1zx3CejC78P!+eF`NU>F2mj,**
DxwKGdMbUoz*Y`9986F9f4z:q&uG,,_;6?iZDy@AO#pFpZ%f_G3s##1m(kMZXurK;2SkqUi&Y&07wPCLR&ZCUX|Zi)wW'cgWDl|tKBvk]LPl2*sQhvv
J^gr[]geEjNg^*57eH>U>*5Z2YpCwc#~LSU.|[VM@o|G9Fs/W|)CcsNrgVx?Pd#ux;9OIAqhivsChSZ|&)rY)V=_xSw^0TDs6|l9'6gJq2pw]EYalgq$Z9
9%)nY?#^7'AE&%lh$H&UuT5c/i,E=hpnh:7IflYz*Ek,1P7KO^@Q2aemU;PnbJQ^8K>zEN.%On$hZ4VwdI(xIU_7`tf~t7C5'RB_Rr/:<@H[LZ*XLgRZ
Am+vG~/S8A3xM[=PuFutkY|U?N^x.HhlLHHXR|_?EJI]hTH|fXgW!,Mp):52|mw>ZNJZxxw9h|%BC%~^4L03N!$IH$O(@,%AS<,3[4)He)fJ7/?^8i'l4
HwKOI<M]k0@@&!=k7tkzN@e$2C+m'*'QnJ+cj0Dz%'o:Z=.#s)9EBV'#sTPvC_C)A39HF(f1q&c/2Y%TO>Wks1)**:m0=,P@c$Bw9OgHG8v8#Q=V2gh1V6
6I<|H(wy|vP:QAm7Re5,ncg2wS!JZOH`,,b>0H<X1A?|+x:,Wn6Bmh>a8nG@['BXa2.yD/1UPGbYw.%|0k_]o,dfR#g?u<Ja^MF2#&'.]'NdgoFtMWD5E
~,t70`hRft,$68+|qgW+>p[2Kq=9Gm3CSBPn/8O=wm;Yng@UHrB,*1+A+Jdwy6MRC+6&ur%=<9[vQHQFEr7wWU%ObEL$+;~Z@_d'm%H'3q,bYGa9
0h'k^qcgj>wm]557_N3tN3>@$gW.uS9!..w^*?9Z=Vd<0F6k6Zl9K_3IsD$=$JI+RH/'!B_MT/|;*)@;a5f%P0WpD:Z3j>]b[OdZK8Vmu+]W~wmskw2
Q$p`>smr6QKervt(oPC|dyISL&YH~lOR61*M.JDaFoLygEgm=0eiW.l#R]|qHh`eSEY_)X=YWu(7`=~lU8KgdU(L1Fd3uR0r__ZK`G?pfS@0hTutdSSN(.
HH~1lV$U'`+ipF<E|KyhsP<kZrHgKm)I>*Y)aiUU:_C#:tzlA5_~`)#OPqF+=2cl;Tb~tveZmXm^pOq)6w,;d/M#D6xQ1@go/vZ$6qV5zIT*VEb=e!.LL
No#EIb9fe>ytlsCTob>vj+!3Vw>'?vZUh&#SUU(QU+M*Vs`AGTXw<GI<NPYk=Vv6>WX.$/g^!lDS2TwvA(<WdYBsw[S>$@ta4fnzbBt#lSPtEzwaN,t
Gh+jrX1FpC4@F'lWJBr]d+@B9<oj1)LNRb#%RJr=lu7]hhLO?Y8w?g8$N8N_9CF>dQ+BBmq&53x>3e/^.?Ppe^=)o9^6jCBVXwY=z#a3D$y[!2S5?!Ll
=|`C?hD$Qz!q<diispV2I%uuLagz;yw(NKr%Id*|8()Hj=@]PvG^QJum@~pRnLB+Fpd<Wjvi:Tv74??UGAwb2LD=R,;Cu:A,1mA=y^)mZ,eu:Y0Q<GUA
Z/d?(F>S_@=:xDUJ5f6lFa,,?h$us3S:B;s)JPC@Nl)w~'#eAH!1j%_#(9Q'P,`2lZpm2F*#o4+.h0`PdL)/|RJq(E[*?n'j#Ny&Yp7=='oR+XMNcxP
%^r$1[0`[H+4BEC^nwE^!gETkq8'aHSbcl?+5e,';5cQ@DBC;.K?22>y[+)_))o,O>ToBHfyo8,16G9ihY7[gq)=iK('XbhuvRTXYK&m;%s`QDHpG;kc%T
FpN)B4DjXHKcE*v9BCi2L_[Q0|^Q|>1vUZHaYNT'e&LuT|2bE'eWMmSax|PR)J'0P.Xx9Pd~@8I;7:Z1JFY]obCANi&[g*NT^Zrh|mxT]Hm8/(s%h;dK
Byv8?R:/4]RQkBxp6d:#V4G*CKljUR9PHFr7HNDcu^v'hNbqL/j!W[$WX4Lr$fQ/+fk_B[aNTg#fAmD&V$iV%!d0v68gbJmW^;Bl)AU9?aI'#2P/9mb2&N
H<qJu'yp5=#k`8KED69^Ds73w)waGvV<va[GJfkUz%,A|mC./~u*GC^q~:CutoJ7[E?EBr3yOB*GEJ*%kn4|?tNMQY'i/_rd|v)5LJ:.;h?QQR[hETGCkl
>9luxVc>'YXTiL)^zfpyJl(/J=0f#Stk?Dgp/+d1%:a!<VGx`*D7/6k5Z+9Ib_#/]~C:=Bco^qj!jRPp@tULBTNC,rE[fYT:71HkrfSKM?5.ZF7Yh5;=S
3r8A2]:kP;1lF23z;;,X`Sgs8_g8ki_1@#:W[g1bz,RYl|d>:Lb=aJ3vL.D&5Ctd#G>)t.A7>B]OgEPQC%,g:ynZ'n^,w`trNwO@5yqwTDL7Y$&.23^t,P
AO(!lA16H/yr6zuPJVwQ8+N^8_pQIZVLHT!epA(M)glaAG,Z?!|U4gW/[|4J=Wel`sua?6H6Dk;ss(ZBGFoz&?5O0I'8OUb,Z5`bm2@he]9JbS[gzzQq|d
LSF4g?bVc*O]%$9qhq7][rZYtDT3O=u@B;`2Gmb2zU$3.GDZZHslQmHhD_[Xr~!^zj(yktH1p:bIYxO&oR;8OFW)b,C($DC0'=Z<21.&?pi^8.>B(x>
V#|qw1()c:3#n7)WJ*lb5.`D'Q0^mHP75Wxn$J;=;U&W_G6VY:&_Mrh_M6*kj<c_0_zNRsvOU`c|Nuy=QVZF^4|kw|EqDY1`lTj=@agke4xmGF6vXL)hW$
8HB?]ZTN]hdI6`9L4+LLn=17!!H*yo?OAt9OzmDq8H0EXVyj;=u32qh.06ZP([^;pgKH~/>ns|+_Al7OXASM&R7ts%cBL?d:P7:8S1o2;6nCud<w.4^XAK
U8m&ljjgM|thL~x1)p$n/|Sfto8PXCh>(=$gcl>^.Fauu)E@]n4T.EZ!EEMhK>b?*v;k'6jfiwmJGQI&'?7#F8LAY'Of!;t(BlA[(BDY~$a(ihV=XJcPA
W_rMyE@y+nU1+A](W$Ksc_TN2K?^[b&%[$>](q9fonnyC7W?uU`7J8DPle;M&mh*VI+Xt.ry3TX;5SQr1+DPM7idzv9/WT+aG/[p?bTZ$;PQ04@OJ<0[fQ
JJ:YQE3^`$Haz&a[lj2tZ!ab421z<#(WsMWG0BY3=R1_%y_kYS+0kh2573MRBd%q~s;ynC|OisY_ust72_&y(HuPbjInlqsmK#d(mv_e8IU5F#CxP]N8
Z)l)$SHVJPK1H8=>M:q%.SXi[[+m/ymvkW5m(xm!e(gwuqB<**$q))e,N~d:06T<m_W*2MVx[$BgdV3d^Cf_wMYQ3<A#`h$j@4/dK@t$hD#6G:`.|_2iDB
<Hd4A^D#2Z3cajoec~Aa=1<19PcAQlR7WefZS~Q=pdaz?kT,:9[]93Yt[zib3;,cJ0O&I<j/]M47+n@gYWeF]w#Azs.50HdA[+X7_lWgcKDr0&1g&ri.r
OmFd[F1W[6=9DGN'K8+*oP^9b*dnMv5VfHzepV#u&QVgo%F:]i'^*wVif*&2MiAkesUP_iPoEVRt,3bYsHbD.shT[vvST?HB57R*fpZ/[Kb7u>Z2@9.Y
Vnl[|2ji+t?f^G#;=rI!?NR(|7+G@`p=ET?e:n0[LTeVe32nYbiEnyh[Jz(O3TUM2pEoG0n.HG!.3H&C^!YAjAhm?hp'c]qg`H]`.d<l]?<W&ki:Oj1
Cvp)!7@n3=%;?!7]o&Yvq%=JjC,$IJDrJ&|hgurNq=U;kYs~*;DApopjR)%hesVUK2d9Z.p$L.u!.<Kf,j~a&&]Yw!jQF`(/srqxSum:M^[bS2GRw(7j5
S;.vg^2hKhF5q*O<EZ'=;<yGdPSt)]I5r4#~1(DSV(wTtgv#p*>k:*MEdNUvcv%L)(B/z0P<#+,[k86<TbBbApSd*&022.ePVy(j01B;`+X,rT>l_TyE`x
T1SmC*lB&Q[RH6QsR*bm[i'GG7B=~^$7#chZ9a,e^OR9R?*'>qVL1Fc$s=X`.wn>*|&A!Iwzplco69HpP&[Ec|1T0gWlngpt(F$qBIm&t5VWEuCwM%
5msfb[3OEC+MJXUq<Ur$'w8VcEf*ZX@c1W_4<;.h4PkY3Luo0V2dWwr%K7%Tg)G*at9[i<:LePi0MaU>)IjJwa:2($jY$qZ%B:,P8hX`66|Z>4@g8,o('s
X.B~AR[Qd9wM2vCbY)YW1xW*+X.4T1KxcyPRzH+ru^mz_kxkb#9Ax;'csKLTl:yazX(;V,;?|/v9$|'j<8`jaA9)b(7AnTEgO%8:Ns~;DpWF@r/qB~p]9n
2>.uL,i3ZAhJUAciezlFxRmfYJarDOt7~2xflx.cfB6G;eWh8Cqs1/Dp[9%<l&H$snLL'C|%G@a9ZS5'i!0<_IczN3dR+~)|>ZT'[$$H?4T^dIAIH$zXX8
RR`KuAy%=K+;R0arL:!Z647l?>dN[@90|y1qj=cEUf8$_0^dT;@LzaWp5e4^haPW~1rfr1Tfz6^RT&%Abm]6X/S_8_^NyZeqVNsDU/OKvWBSref/PF4s
I.'Tq_yl+)SfpUF_;7Vyt^F,Dsk18`dn?*.T]RZ:|n:P38g?6)IcTyQu2AJPX;^pi%f:F8DpPvauApOK^WppAkF09W(+lq;P~GHCMtDVD5f9LDFs|]Z;xX
0&1^jBa,zO~Z'[d8+lEN`D<izjDW3*6NP1?R48iJz`IvR<lceAEYot`auzF:rV0fn3p(O~OLRNLUSPQ7ETB,nDi$G:?mglQd@$F1!gOI^dIm3<mlX:
M/tk_YroBomRWN=&]?xtirQ*5+OaQ,Np?8>kscbmhAS*qSLY~pu?y3msX%ste:6y>t~id&vDyh$U%u&*NxY;0#=AoI]=q':<+>3rCcW*8w.[;H)3HnG.8
I_dyYqL&B&LCSvsu4_!]Q<ALTy~1Ff9oC1mpb?`|A)tqxU#^WEmYCC|E1e:7W>,hs:s&W!b(y`je~U3'Jcqu[s)Aa=Og~*;;S*)YIdJWDiXeU.@w?<BeN
%:$We[bOp9@T>R.oGG=|E5q+*wp=Fe=4H7e,'9~ki,`O6@5|$+pl<*ZZ=;pJ7#jI#.r?0N|N17^=`7`',`7c|dtUfs.Ch&pT3W`qE](O5l_.soO&;yHEba
&vStqna+MG=_z_rDZ]1lYGmtNK4]CGN]p:DAb8RgkNd$n!!k?Mk~k%_1.&l@wNj0i&ukT)E7%Jm%Heh>etP8!=%CHg*T<,d2bn3VO=yA.XB(p4bg:JxML
8*&Gp@vK(fF=Di'sr1Y2,LHo.2Yd]~Bb^yB5x2jO~^_%R4[#Tka@(kIgEt'cTqY9!1vfJRdAD!B>|Tiz81=v%QHxOR_hmx%vS8Z?dZsYDyy3'Dl,h_k~0_
46]HJE|o#Y1fd|6,DSj],,4p6EfmrGvJWTN6p]npXY/|n7q67C*0,7:t@uAM$!:(09$z1b,^t5=1;|KU~1oU&gnOE0E6~LwUA$7UZEKh|nE1T#U)B9Lodx
U$2wwg$GG5m7vm&tSm]pnm:7M|(CyJNA@5hJrPdnmIDJ=e;N*A#kz]oyY_/f?1Y>SOZo!8HGkGNjlCl<k,$7f@&b]wT,Pu(F#cE]DN~NGGmW7pe%L%syT#
Z]a_=Nfo<EuJu3agN`Mvlt@hMQT%d>EaDpo6'oui.;iz$&1;u6F'V2+IO3V+&`l7ig79lmn$7r05O`)[jI!4apB8#bdeK|$iX9e9tWw[vQYEn,S:Zi2cKi
8[YftgnL1TTwpR(_~Q''@/X6qNmv;8&9V&ljnMEk.8JWL1B&GVgE)oM5[84I)yhfL|o&HNx^$NfxvrRoP+2ulwOsq9YKUcKY5IJOVKUP,Zbv8m;LeDMF1
Z!Lz*#ZbIfw00]7nBLU:R;j6BtoGX:aDiON'cmGAK*$#9bay)0C[]2AfCvk%dpX]NU/3G!57&]j24V2oR&U|b>*rW|3UzMeLp;yp,y~&w.zv;@<)44qg2
(x>!@Qkc^]b7SM8fvf768#|adNCLJx]s8Okr<LEHS>e!?gGgiS<S4qRg;[NuZcKY=CObZ^Rol?V0%2Vu2;gN`&C:|kGmCZ2H~zk;2X<rn>'uZ,B9t
Uir)icp4S>BtiZ$^l,wM15CAIBw@rWzWqQZ3QadvGF(HY9>,Dj.;u_WU/jASQ)R05W,QSm8<O:^9)6N+M?e4a3a.c3ycOL.Yn(dWf>tNX[4Q29a?[A~uY
4e+5PQ!q_hKF`Imu:.Dx9_`991V`U+~u1`lCzMXng4J;D%mR1[O8+2=,h3'?ON;N~lOuuMf`9`Y+90w$N[0xiAoBCnIOJB/7kDvFC&,zl_umXM$Q?9oqH8
Elq_xUzF3,c;bh4x&hc^IYpqYuJ#;:)*0>Wr:+W[Lz*foBwz(W)5.mQI,Q.Exz/moB,bmk|]?C/q&mU<f_zY,*<!ebtgPW/'9NK3TOmHwK^!YG!(!F
5f)c:rq.9`q?13BclI,t8)$aw^JH[jL!5wxQL8)&T0O8LfaC9rwcDOvp1IhosS._NC=_y!Z0)qR0ims/U;7~5B4Hc?4%G@:eZK@KY3$*Oj5v:j1,q)Jr
L^tytF09B/(,3]1QU~+_G/Bf3`|Q;o^tR[q[!R|ZJ;Q/vU.hes&ztt|!W@_p4+RkL'(e0?>493`~rY_L88Kf`,;.5.S;H4qxfbE;DQkIV:=N5nA~85saGw
Z5vZtG8l;yq'`~FV@,tV'$W#;t5@)n^M30t)vasApST,<se5@&ca)1[f:SR$XP4uk^bhM=%(M7)yg?/`='[]~T#0blME/`$;<2GIzM(p]J:7TYKTq%QJ+
Cxp:4kNhPY[@cO=DO8P`^S_,Vdn[?A*hJ.[7iA#oZu$,uG`H=K2e#B(L9d&$UGh<j2#0#3;3b1[>NazXlCs50w&DKc|,pBXwcy%si!:4$!)?l7!_PE^h+:
I<qsM&1s94ulVBKZ#h7=+Wr;ug?|%jx`pHL0R]OyT|:RR9wpJ@q~'wmz9$cVMEB=|UsnGfK&zyu,%&X%AqUu@~dszaN|>,d6F]tLTVsR%&NVSmm=<jxi[7
0!0W]/q|P_E!BTSIS;&N:mlQDOYQ[cQT`?$S8H.ZmC]5o!wF^)YBKkO3fp*Bk#J4Qot0^k$:W=Mfpypny`4[pSry7jHnw>q[AbPr,QPW#zCFRhuxH=)!
M#'3%=Yi!~zH<Ms7TANRXDZ*TYZM6%eP12`:<V@YgLfe)b4[@mGP.i=J22N>g578*%m8I4,'jd*I=g'z>l!3'Q^^T!Lo4Zup|qL|$T(=tdc?a07GOvz@x
C`csxqT:_%6#k`J@y($vU`Wt~?r97vK<]`JeT/X~%f%Q@8NmDDDlt:YtX[_W41`eLLQ6)FZcoTV>AEdoDUZ)'0eR0uhp_=1d~c^=J')<e_]FR=.Ku0r=^$
4b_iN]$&r[hfPC#o.xiT*|4+YW2~fr#CA'NO^m?$44pJ|wcvkWi6_c$QVpy>MW^rI:g7T3AuySj>]NSIe@kRXveb,<FFcoegWzEW]aLu$Lzb:/Ic%f4N,_
18[g87FyEVzL1_yZ#<FcY9J](1HnLFg0?:~nZxU!2gS0H#xY3_pWnb!`eL<8^@.qlI1j,jb'%Iwo(8K7Lu(`7aV#9BrZm@Sw>rSrX(KO_w)s1B1HB89S0
5,;Kj!S*pXh;?l#nwR:wnHy#!6NS:rz=Rx:F%wVG%C=qcqw3(iti.b8U5@5e@aM]bbpv3@IG`w93~#,]v0TMOK+!<B[zYy]6rNUi3o%+&VS<wxzhBNe(!9
1[f/[k9f+CH?x]:[tPr(x_v|Kwol:V,!h@J+zW.K)03A/`NZ.D>Cw!n`IbZ&RU'?20GmwfSWjfkyRu5(bDH6r.G#S/lRVLK3r|u+!BcX~6diI*fd`<)O~i
NBkSUQ8`xl@jvBKrL@S)9V@mU&1srAEJg;9sE?xj[Q!~./@A9|vwIK$A;k.o*05CM<:rGs[!uC+*'Zth>rEjV_//|M[j)?J)0aDk][M0fxP_oX3Z@':.,^
&[sQ;ZEV|6i`NX?ilT9,K#_t'GWm8UXk2,hCQWL+pX.bO:9sqT<bk0yF*E6j[8Z7>0frS08]V>z%t)$&#vz:4.Q/0Nkf)7S,e]8]K)b1[|3%BF='U@/j?s
GD$;ti$><)j.B?FmE^F~SF'$E'WK/^Q>5iKgPv=?'&KLu$z9!_^>kAW^iDA@FyL3W;paXSMxY2C9cPT&X@dyfnLeP$p7wA,<[6>BvUIxAlJ*S4mDk]x.e!
7m0)OQUn+kJT.~DeF~(Q<%Q3okQ5'_nv=]&8b'5SR+WB|#k.UR2h:J.>tK7|)q')eF'D`X5q1Ndc^=pkl1DU^v)M!eeRGWlPlxD,V=&R4P5$CS:EoIt.E4
Egl&gHV~2cEx$t8!L$_ud.S7oQ+!g5gBGazbq<GB=P!rII6A^r.1KsAy^[)wHL(QUMYR)CJ7esBi]r5PA%5~zU<Ip7bJsa|^oj$cTpaW?,Z;3`x_3r]BDr
J]?ie>4c+P2_?HQDBUV2TZa^m%iSRoI4J@eJ5x(4?4xflO+=Z<[BnHE<9ef;*VYXKWDW|#ou>:H0'E%+Wr?u2%FA*`VYr(&LE'z&TlFeNB0)w&BdHpXz*b
(p__9+]42O%T==&eE7qpq3^[6YM@Wr(*<1tBolR=BQ|B:NMt:,1pBf#kA&>c@|cO$0g3/.`Rj*'qIwaC.<`BYl7PGGho/Qs3,4Se4+0gwd<(z^m9S'A'MS
7JI'#R^.=<zT;t;Cqh?mL/ugFZhCxIG[h`xnvCC/#L/+$dBilJxvnF`D6Xyk;(z2@8yBpu;_$]wQy*B0e9x>BRZJoX,_OU%C;SRQt5U^1f_r/%z%Q.8
Eepf$YFC6]efxVsNlh:tv[.cGz0X:Dz[pCRa|aE,520g~F0+sQa/CQ+7VAoDAyAy4Wws0%.7'|E3wfC`83M.>=7etJ9s6k3*pwL(d&8.i|;`^~GW>axoT
&hBV'2;uu.j&OxgEz&9R*O0~NR*][K!WyS0|x,Bn`_%BNt;2.*^;kt,N+6W!(m7,Z*<l_o=@Fl9/|&n+F^g9lLb7PmY.h$*n_2pRfCIkNV[ex8.$va@mY>
ZT.0FK*?&U2S$'NU16|LnA<Nr5B5=n>1|5:5Z7Z$;.H2CL9~Wi%<ZiAk|ZS`?[k,pNxd.:Os_rOO%KFrA%%>;/^[moy]=4<a!HWgn,2<J=rnS&C6*56/_5
6$|cVjeldthdFNpe<`OUlk?<tMt'WBy1v4&9QLE>%GS@UyAJoY8lyU;3_3SW0kUJmk0yfv0HjOF?V(R,?XfroQqHUj=w_:g3_`(VLc1tc!4qt]jt+z7&@
Ia4)yS4`K=D<thQp&@aFN,U_>X1(9#A*EI>SG~NWI(38'ms*83c.RLb],732'E~j[q:a`hn0UzC*q$]rHKwfhcH7e~XZ|f~NZ1z*13D3;>y/K(VP(jX*&
3mj0t`I6BcdT[dgnJ.e[~*KpU9Ck%SsT:8c3I/#0=x6a.h*PX0*yFzk,oi[kSHGXs5+l@pk/+y_.jk+j_L6H;7v(B)%8PWMjPin/TME.qwSb>h|a@Fl
7l)g9/HBop?|x6?:yHkkcwU'hCppVI~c`^?u232n$xXDiI/8Yx@cmAJSXk<Uq@HmiizKdycbY#LkWHB&DRLI6j7HLgh)7Dxs7xMY):!hw_hx>y3y]'m1LN
(/)7ze~vHXIpgo8L`GZ6xw:F<f930U`'NONAFoT[>l)CUAie+/'s^~5y>qYlkHtjL~/UuTgpT6`@.|+>'LTIqqqc>z3*M&|eh>NNdj!jxfO:b(YOo>7+
F'/UpH>n!~#G5Gz+f,xWFzKY^g~r+W&97e%3dJeeti7gsYT_Q^khpd~9%ij4AD[$+:J;a@B,&G[v~l#&K3@hxTc_oo<?uhe1&>LY[sUt!dW/mw]i<=yG/u
%5N:AGHFZG#FPzk)'>3NmNU6xGH6%~]P'Thd&;[234VT.l$.<KfcK]:n2`CkbPcVi~Q|@vgsCi]b2wLUyZ2Z|nAU!(E?jDL)tIRTo)Xq:L0D.bH9t?O&
5_zKMXrvWUI/MK)~9gs@iZ`Mj$SBR2/wmQq/GxSVrOtN[~*vNAXyCgEY'@n91G:`q3xvb=G;N4f1pmdLVdSt53/!CJn/<G/bW8[wE|#Cn,wbO<#ifu<Rp
MeB?G'JA01iMSZcv2:h[T_5jg;!>gG/zWTZ;.oc<8+FW^f1NohUEnoKw3]'TAbr[%I^+3e*xvkFh@jz5Uh$06+P*+K1kr$<4w%qHIaUj7+g[I'`VJzYd(K
KAI&0P_'*S7aOZvAi5D6bAne6:0sx8mS)6Y#P`u%NNikO9vRvE=g=osW>ETycPw%2a=YV]x3(cfX%op0!8xFco3`H,N~*oAWYaF%l/>I]Klx|Sw?5AvwJx
IZp:&t.ukQGXF>A.'r`ctwRb:YKDjlX@p8z'#kQF;V^Et+AsZh9bY^l:ouzz~scJ:;nN2C?*:;9v8lxN.'Y4~H]p0;K^Y?bH[$JQtpn'0gX=i9ouF<
0emn/l2WfnCayBw~[@^0btA1TXQ!3.+x7^s[Z9$#q4)0ScXl+Ns`ZcHjC@co%LuLJd$75D,XeL]rQ&5;0:XJz~jOG@P4xMZ@Lkl9M&s3*alZSee7pRQ
C*)qagH^>jj8LP|?bZ_q4q>AhF_=jp,L[IjvH)ERDhc;*O:tTHw8#BFt4]Q@VI=:0^^EFX>|t0>z]AeqQ4FEk7*[+$?.u4:d6N;kqMS3RdA*!r7IJ__6Q
Z'%cF!qvx(b3~|0qmj>'lb]?@uI[:o@'y?*@)UKHf&%Me59CSJSBP~`ldZ>.*]_Qkfht!kmN2g9K?A%b$5~Y&zCW*Jc`i|kU3e*H1;<!13jC#UyhMp$Nc
DtBtv3rx7d,^]`VI^#tU~'HfSW'lIM^yf435cYM|&TO&JsFBelz>JUl?8^Y=,]9O,`e/co?%Dg.Y=2V`dkLw095vbY,hE37n5`v[,A:Y,c:yb:!,VNJ
P'fl`C1Yi2V~YBMyQhVtq<7xYCm9$D(Ax~A7WjGf.YL)k*vyU51%SjjNO_DO>$5qBzs.`(q%zHmP>U?O/thM5O~;a<g'UfZPi%;_E^uzL[9%/LSMSLB18A
<4M728q=bGgNoS@da/Zvb`ZEtM7cDomX&rOR2u:U|,h,~;k(qh!.d*|g`K'J_iO(nC7t572&vnFFr(;D7^;=R,!Q43C$iDnER.+~7Ia[WL%KxMLa.3D
(om,p4Q[N>~rPt?'`s4T$3awn5/V2e:2HiO7[1^y&?Z24osyFG_7z|:Gy_K9t@XqAv74>;HnUsKmbuC'>naFMFoHw%JzCtfHV_K%)J4K;Da<0`?lF%z)kv
=hk397MpvyEDM+:7](l.A5Fh6742#e|y*d5~w#!Vmz1@Z2XRd?W?6oEtx#3n%=Nb`k~6ab|X6Ud1:LIqAhN^xV)[L6xQaEHs^;$95NX%eIeg*n1(QP&q
P)_RzvahVr[$bOy#p/SCZmm&)>pCBr~3$N3Pvt^r+0FQuZ~qnK8`0&V$vYK?YEHFjWB*x`UxBI!12?GAyvz_J26UN?YwAM#J&RoAaft=|V!kK#'9y.'H
Hvqy1;1xwaB0@B6e;/LM#WKc]@T>[|%'|x*fR@Xd!EaBI6.TI<#Kwnle]vFoeUU|du'#mljz@16^<;)Ru1E[n,8oB.@nA~tZ!jd6KwpF@7qUDS%E~jIy5/
3$L]m!%;m6S4E.Q|'tT853fgoauZ.aWpSqOvsz[Mv+fI0Or2sx&V[^FzL&4Xx]+SSx&KjsP]tJdp6G]Ya[`$_afeXZU!8$L^QBpp1.R1!TK^Uf~:,tTJu
WdI2FP>1Rv*N9[Wz,,/x@29tW.K'TPlnV^Kr)'`<Gor8)7?nJFiTdYI9pp?)HI'0%_wo@Z?nq:Jyj[0K(&Vr3!W60YVt:ws[R42C@EEo4E%FfgG*0T6/a+
&r'#Rj<'P;#mv'^;>K:##jQ_=I6z/)S$Sg%r]7TQD[u)+5eHT&(!;e`K5Y)[CAshaxJGL[:J;q6AHM#C[Y_Sp>Pj2?;UDw!pVOZ!g*ypP@+:!L])1>l(^H
C_y%A~S+sZ@t+rGe(!,dgjF[m8c7GIx3AHwVsn.0)7~&9JtkfMbOpRYr1(>[=Z[$+X'vZ)UpIcjVFbg6F_Y5?&d?R8J@_8+B;BP0!YhmP6vN&lRm&,O
Naqvg;19QFacx$5hMuZzicj/07T4~C~tmJHcQdIkH)2nHhK3Z*SHluNFC],1iy6uf@+$ruqXKS1HnmUs(GPWj`O4HSBpzd9le(7by79)5mq`yn1
Eg$+*mgsf&*d:S)`Yex[R,z.T^<U7|+Q#d0XqBPHXcmR%y=Ad`Th`Br`]n()2eQh2DG0ngJ|'^e>8&0@>2`#(u@`]GjIY)46.D:3)ZiLotG@WPX$O+y
=#d:t|4^pThF$Ad@)FF0F49E~WxN=Xg/Q!~uRGbhknQmomhBF<uYqJ)8Ge8)i4eTXMrF:n|J@6@]:Jsy]b^RmmJ[#Gv|]zTUS.>FoeO3j>NMw?Cu+DVmRJ
AQOP~,H)rfrP_jrYZ.!*Kbg&r0'5(oI.60j;fM?*C'19foy#!7x2EU:x*uO8kjt[v_9_Z0rFqx;2PM4u[Nt%WZ.';esdIsmR<J'7N,LM`|J]!hED9I`8+@
2&i6_CyeI,7THIGV6LpDArrWb'V[`|/zLmiLkp;i1@hI04]'C5l,;G)/7lEwCsg:g.>N[5X+k!?[#rv<VeO#tVsGMS_P8=viiIi$'[U!7%b?;VW5)`si#O
CX;VfzPEJ9TgSS|&fPb<c0*gAqyZY1~|RH^WAq<Hr4Xw!3mJ/DcHIOnG7&Kuhj,N/Ik>O,#sHtAv%X)1uGg@kEQ_(PMlgLLXxRx#$nrfO>xI4,[bp`_6Qf
J+`/dS,X$Bhk>|C&4,X#cbK4l#[a<&wtNOF'6lc:NlRa~+Z/05T3e1?9CmHY`>@/Fl0Q[i:'B$|KHA#QpkoWGG8e/t>b12pZM)bViWluN,t:]+jS6Kmr9!
PN?br~LuuTeK7`&S'y|jMhv9.`C[2=9%7lSl&$_j+'?vyii#w<iSVI[d4/sf(Y^K8HF|P0F7gCH(;$~hflSd_COw`w]W~gs=0uNVGnB>hm)>7A@12F(LT
Hvs!oWCsFEA6)59+Sk9S8.hGj(D|)]tB&2!eypyB5Nj)~wl!eY([uzU.TvD@S?ORJ9Rv8wCq&0?D.;uOuJN_#Vt^6wo$o=HQ&=mB*;fXqh<e_(kmERuz&k
XE#ZBB(g/$?q7R[UC2Bi2.pr|/MkK/1F?5m)W^9'q=Dhh;o4w)nYIcJtq!Rk?R=J`=N~Rm[@OI,CJSQvi*5amb*8Oa1J1(;m|pLV@f`Ou2#ut$J/DAqTc+
J>m]4LVa96*;pC;=0M'EYUXKv%ep|9MlrB:$,D.E^7by~>n~eE0.#C&>f;QW1kB+=k7/df+Oa@[3(P(ecO%s[ihT+k$/z*[RaAm:yqX'rtCTabtAW_=Fu|
ZO[r|n$)8Pd[CqmS?Y/i~NlZVeN|QR$Ts^`qO>E<G#sUOZF!y(xgy8O/jx*^=t1j!anzk'kT'F(TpWq0buWKNDB2&pTW2w`MZM#y)&aIHy9,iV|F?ZZ
Uhi$gnN6G5dGm'??CVwN@F^6OI*yA~[XdrHI3UGP0%XxY1e[;7+HU:m]f7h)W8o:CA2o8?H3sU;~Hb)<gvVI:14'j%ES6Z&S_E|U]|?~@|/*VpLA7|jb@_
X]u+RV4Eh?@1IF<)stghO2@h,RMDbRUMsmU7gGY.GTJjz;r2]gb2sk2_IHm!uOOhbg(tZ!t+sWOl8W!/&U2Qs&R2Q+PE^1:o~pQk~ii(bVRdPAuz002Emj
GF*r`YZ3J/1[?!()fO;_abi*[vgz[K'Cct';kTmAma$G+CTK93MLqJdU!C:dlvG<dc*tRyV9H#ShzjSi0@QO7j?.h8WO`)h7cbNOUy<9Y?8[/dg~r=
(@hp,ka!YPt5:5Kh`|dX6K)!x#J)N2(%QYMwPLsu`r:b]G3>tDf?G6$JVE*HMdSiQfvxh4N8v8mi#=SbDG)PeuuQ@~sE](K4`?@ta321:m)n=t(TC*!P4s
JezHv%%ukw_/Z]ypkKal:xEx<d2C#6/VtT/|iBqPQsRZVq.A@nKaB)'n_`4|'[9P[|SCU8fLhZd=*E@$RrKrC<@Tw6T6/w[$M~*O(<mb'#p/TL?5]JlS9(
G]j@y'Ws+CGB^2WS|/$eM9jou7F+34s&%/cq:*,0go)HxTm4n]u@tXYwqjcS2[daQ?)XgJEW*U|pp5QPk#ZNzC8%b)x#4,~GFEpA8IXVP=LR|eYC#Wti8R
&N88.@ho_0F86?[m3W^5Oz)+F2o=u:Gap>!px'7!Q:a.aMo?BpX<9x%Wn2TXN=i$we~%&)IYN2D<;_3kucvwxc1gnq'x!!uul[`fb($hL.I>OXoDtFq_v
I:;wI[R,q0:%osNz06PC4u!BM|MSh2IBjyVd(E8yQMSxA/e/ur1#`&=O=wO9blT=zVwY&9&?2+?M*lKA,HB>]dEQi+0/SvWYgbri_g*8Kr;OD>80Dr!_,Y
R)XJhy/SdQ^BtS6L5gv*9:81D`]qx0r/<:wW.u^qFH#[rp%dS6'cpS%IpGAM^eHwb[,)jhcPs'u0l(;[3mdsYTUzXQ!'jrgXo)+m_hn|PwrRk1EuPa@=XD
LWl*@`GaP>|UHPS?e]Y6H:*$/7w#2B?Yq,ab<[s~C(0LIA~F,Xu:77Q6Uk=eZi+~%0aS8caLUpe^m6t9h/=copd~$u!.f)W/s&$OKUy'y+FcC!~,Q/F:F
D|!oyS'Jg$z%G+&zzPW(58_V4/kBjr*/b&MLx.Hbw[Zd9LmiA9rYKfn8jDw!!xrJP.eRY2~2y|1G$T6``mLvRQ(ve7g1rD3&,wDoc<$t<,1e8UbFNh).
<acFPzMBz6r%/S#H>C`BBc53HF?KWDe[3U,/k79f6V?!oJ8/V~7`ks5Z~;GdCZTG7<a%ey[gO':L:EfyZQl3,#2XR'GckjE3tJyn(N;u^2fUAgC:)1>~5
G#5hsSy_5PnAs0N>X=CgLgRVn!*fj%3u^#w0z)<?Xsxc51)~><^C!P0@Jp6awuiw!'sdyD6M/^NMBrOZYB/nPwd+)oSoh%xnCQ79PfeNTF6kez+*'RETdR
17r&;sr=..UQ0Bq&&.pL9^izdaY3G/?X(eM:AQ%4%Ar3+ao8aH=c&AI(.&c2+Iu@?=%)hV)0MX8ldXQ@MHrUMoI916D=S6g%/X>~_0I|05Fk;7M?&rJd<
Kkh6bi@E1_O]^|$B)Q06$WKQe<+42VErSmTyrU1|`*,_z@*mD10BW<N(+1fwUc4FFr`kRR!c9#qCZm*ZwB'r$@9yQ^p_*<dH'j?!*F]xp?qNK0e'F@*F_w
X5mg?0ff|mgm2r&g/&xWB#[x[]hf`psfFZayjUVE2;r3ZKxziof*$K)7:=vdap#FUKG5Lo.O5;=j'A50C<o^bOYdW:VSL]Wigs8aG*.ko<CM('e?FTu)NV
Pz^^v4~6GbP2x>]4%@S$Rl$eK/NA<<f.ILU~^G)lKD82!4hPT8C@=1xUx'Slg@],h;CuVm0CcD?R:Z=*2?IySx|Wa[8|m2wr=Tz):Rn47_:4'a..b@=
H+x|RLoqJz&#v_KP=NbR;^<!K3w+]/;g]LmJ?lb|DELDkT(7O$pKL+w<ugWx?s+St[c[aQ#SUbFMMR?rE3&eKMwUl:>jr'i4%~)>).VH5SkSUy<5(pxNQ^
XVt;N<eAU:d>RiZZ6&PMA6dt)]4O/kL5qw_Cq`_0oTvwK(~k2BTBrQM8Me7Qlfm=ZO9T[Oi6CXdy7`|=[M1tr3W9SpPAV]dtjhW!>HWd2`%'g+n,Hk,0Kg
80#ifJCx[tdGF@,|(u=SZyv0!Kcn%.wEiHKAuP|V1x8;Q@W&Gw)Im$FHBY|ct8aHQ`Rr_H,$B.&/vt>z3RIrQGiq!s'rW)k.3A6X4TW0<QN%keSxMC'r;F
<tft3wLV|)f1;s!m$.kD)EhWRhz*b`MkR[4I1/W/,yZ>SzLfwRH/5st@XG]|*|fAJoqz]mfT6d2+A/XA?vOeUy~7'n%D5:t55Ir^^psktTalO#9z@E$du
6g#0@%<?JWJG:,gE6QYW*pG]Gg#>@?7kr7RsT2V|y0@Xqm?R>V0dWYnv]QG|2JOKP&>Gk5Rw+2&&S|D(4bvnB>>K`BC7tKC_0V#^WoMB8)k=!;f|prW0.
Q#E;:xCH3+==GqU4WipY/n%4@/e2MgoiqGE(3jZaNJ$W~3DvQdPE/,6?gjm'hl>ufNS[=Vt/7WwsE<s8rL&>P1h%&I_wxL~mBkm&CaWW&hDVH[yW!A%O
9ht%9=ck>CHf^KA+EC4x_AzC=]L1]Ccb4M0P(%LvH;uR)0EV&C1l=z?iW.(S*f;pt1y.skE#_w>$WF>U3D3_BL^JL_k[oG4L_ehPd8`pzUbYaoq+!Hrrgk
W?D]2]i1:XNg8X0[FgT`ssM(0lWfU%aLM,!|SGJvfTO,cMa^Tt?vXs7g]O$;9qIHhx^j>~<J+nIH.@(UEwOld.c]7i+c?9P.THw3joFjwdAZP]!T;F
8x*ahO_D[$t!=W?s0.VE95Lj)Lv1&AH]Wosk$S0#)[WgttN714,+gf)*$sC=pja/!u>0m@)Lwbzf3'c]U3DyJKvPaUotOqM_'b?;]eeMcRQjs3((pnG]Ug
Za|zQ$/X+TmU$3|`O>s5Zcl=nayeU^KzW0(~`(t'c+/VK)0rg)@=2vI`[c:3.!Dgqoaf0,9Ys=8C[n4>q&'7vm>Q!T<vW_[II>lu7sAnp.5On&RfWhLNa(
NGBMga!pVdBw7X3~(=K#*tc%D&&7Vs!REf@T0hbQAS='#sLpcr$T5zZcMrA:*6hNF)e'/bxInwknP;Pf.t^Wux4,^eIFjgOG/rO8fq)z`W)ASFg*=?2oz
Z^8i%TU4Q94LRmj]E'yu0m;HDVp1OvMv92YchrR^zYTJ&zf_TfMKy|JPpta?oW[/S/Mj:.FVZD(1*`vrqM8>.&Ne:eh1$|.~vCCF_Vur6?2V.G>Hv9z^
4a`7D]R*;n^4jTkt$&6ny]Dt:BV5!n~.3Ui=H`/ZEgwn<~M*1'P]?b2Zzq$[_3gtf&0!4SjU[*7$z[mZF]/VDvJ+Wv;vc/jqCz,el7DtD#bo:3r+Q<YSh^
G|JXR2`?'>Iio(jE%sD)JK';Xq@abny[z&^.MP9#&ta~BRx'RGoQ=lY]gcCX7:D/iUD2><ln]W&gCBT&H%*1/Mtv|*>QoM)~NzUJl0m8@Lc,d.G(46&+
N,n'aG63A80`O[i_N5EqK0|/]@#xKy?>92B=Plpx5+aigUwJ~o#r`d9Thkjlj3Jd'snz/qH)&nD*mp2#E!@@A<hR',T5z%M^*5./$mSG.E]wzIAx&BA&
Ogd5g&bX,nL9hS?b3XV'Z4t]Ri<^A;G9'Hm|g))|uXn'jOhIsn,v%PZquIPl[Ba`AQ_F;zbsBe3yY1?^/R$(SbUlnNSA39B]4qM~Rqkcv,M4AaFi[M:uwu
C%Xi,YZhQ6~7uMALT&s:f>^t@1Sg^2NS%!)mcBk8$ZZ]:N2$GE3Dse,gx+^A.aG'kX8xxx,k[_rI%NuvKt'G?w~OAfwdG`l7GQ8PRwd?qrz;3vHn*%8N~
X^Qu@T;5!qrcH8Eo6Yn1pyDn[9|&|Rg>]g<pk[ieJBBN^:`sW3Kz8hPd@J0R`fMvzX+>tukU%y[LNHy<;Xa#jcXU&/B!2Ei:vmBTT.oPWN.Dkwv+S
Eil!w*GI&#58`(;s@q_N6?X]la0/zRn?1~KHIqTnI)AU2Z`A=)nr7PlBFDleeGz2wJ2HWMd*?H=2kYR=Yo]=#<A74W&r%(aAc))gj?;k39(C4u2wBr$)u
O_'OY[2|f)'.p#OYbR2?II.hZs+I?Hvk(iUqkV]`3Opcyd9(+T8oUe.dU4Y+&~J%a:rFPlI^EXYm+2[us~R>LVYuo(+JIM#p(w?7W>l!6BhUo>:X.PV'=~
JlakM)568]jc8Ki.!W0bWzL`/A^$h*I0Di0|]&JQ!V@KicOH7Z^Uwhue0=JLy[3Nb#9?rw.&_z%xb01M6Da*J,9>d*lZ>kzl3H$g#l'#s7Ls/D18GrBNWf
CuTOk>Upeoy>+w<&tXFVZSi*V>2t:.Q&!>qKjmFz@,qreM:xodfdA>]aMf(J`'NI5cpZ^WtcEY%3*UX&y8t>8cgrdV=M)XmO>nIjWm%E(@1s<B7S<(rZ4d
4a>d8CR;zrGT.~/c@#1V8VG]L:t&qPtngsSF*P</vyr!@(IM[+P#kXGDRC9As2x%viz~]/_P<HLFPT;VSxwF$K$LML#E_vMi7s#jFdcfv|J>p*q=ukFSuZ
0C%dNH@l3VtXX[n@hv!g@9=Fy:wSGw<zR#Ki=l^0m;~+xXTJ+6z3u5kutwk%5xVoOjF)v,b7x4izHa6Ju9hVfL,%|Tn1Ub.n,VN~k&&,Vch9l6_fOAGj.F
EyjE!+WfNIFP:6YyNf29&X+y_XJ]fb5bko'MErjDlL(GKzw[Nv1'yBSl9q0L):30H_$[o4,^M5NEL@2yP8>:Um@MhnaD[/CD<T])DKG'qh%3ZCD?MQ)7Wa
V^C,FC&&w?X%$O^Hvt=JJI.Op2[Gb.x5&G<QmTJu7o!w~UxKG!H`c:U/d]nC9vly`heG)K#X7BOUgcBKg8ww&WXt@D:/*ONjh&_Z@(dH;V>?M8GyFzc9
Wfut*KoF?>b~#eWfaKD@)=`^?l5?+vM2iEG<IxL@:'/z#%vlc$G~WT$i@zay)qRYpku605t4[1:>sxV1@XyMU8#p&&(^]h1f&uvOLQMI`RzyLBd;14LE,J
T'o/P;;?|hbE<)g;7/|F;Dzt[4FK5J)2Xc|m<<:1O>LM~]kiAkt|?jZk5.F&dzV*ghEK@p%VeE(<`P6FiP[vWmEZ&:q]t2@Mn>e*&>Y_P;P&`7~jo)$]5f
OrKZR(_v<EnX5='xm8qTt!T^1;h&U.d,yUNeka/UW=XGo%|SA/=n4k7=w7y[^T~cZ^0)O>gz)8TwDr6j3f@V2.`4r26ZpKX<NQQ'@A=7qMw<:^?B9zuDEP
QOn9ur++mMoK(!tfN*0J@3fx0xnFF#[%8;P%|w`Pbo<Q=*),=z/ofmKu78c7Y98[0cyNfm6wjXzlQ>|Vfh^HnPZX6#sj3!r?tKn)Aw5Yane]:obUd;
Cbnl)W.L'2>+Y.n$8,.QHmlsH3>59Duq@w>h'Vs'V%Euc=&Qfcp1X4RHF1]x(?IT%fw[7/]sq/DEGRKNFZM#($%1zvWai,w>AHYW;Ci/lnl)+*3Ly2BD
R_q^#)6FP6~WV_8Rc!<+f;vtw9g/I7>Z7RMW6p.51nA/[|O!YSVZ5xMq:Dn%$wxmu&A:/lOF7B46u);Bi|0BTlNW]:Fm~RMC4HV/V6=5?bUxI4<DR#6B*G
?=f.s?~UN@*7Q5dgT$#o2T[p|DJC7@735y@/f8&bl%ezomTOE2@PT&ZEzu>V;[1`:%dL42uzX9PCX_Ay~~A[y&N.VNmqAplW%VfazKwha+A4Sw?s1uH/m
(@l_F!&i(R|Bz8540j|05eG%=4cTIRuo0s@T%k]ea4E)Rte:m3xwfAGUaWiW>*ABd@#qrPEYks73x3#+wLLKI/E]N5I_4O=b]u_mhAx2FRat2]<,KusY!A
5#4n?w',&]1ZDBTlW`gg:+mB0?Pv!1KxSP%s:e~JZ&vnS53!Zae^%7.jx8#ZuSPh@/x]liF@!bNPh;RZiwxtHq7M9h+g/aIYQV&Hi6Ij+H>Zf,xM5#VV]
[!,ie|>GfHt?v.>:m<FB=:%Xc?6fS3|gWC<kso1Tan<.XjGMX|Hj.UJY^;.jdpn/gJymc1GaxQxnmm9:9KiRKG$cP9Y:UIK|eB0`yh5?WcYc_;YT:rN24
5oXbSrcP]p*uF.Py.ds7G~hOk>K6n&pt93u%C860A'>V1TN:QIgjv9Uo)gau|tLCDfc/pw2_V7rJ%.s>(]1AT~x6Rf1J0df3KasP]+et7Rxl_)Lr[3
(vtf!)qBV',o7D[7E/rrba^`1*K:B`gt.D=mT_|R0j>.~beJn,N,B$)/!/hPj62`xi1Cr8OKAS/q*~9_T<Ej7c>i5KpeuxGU!frhI&e#aQx&l(d./OM(
D$+QWCu&t=8AcQY'b^O'6W'&zU+,*=RW=x2lu#ce6j/gi,FvcWi9u*|aO;,s=vU_#^ZrlxAXEfrwQJXEW<EwY9KEAq]t8/Wpol=6hslH'P)uNTI!:.vC>
Fs8Bvqnx8wq_Zgnr*DSHNU+qixt2Mh3sl(6*nQ8y9bZPVH+yWDR1*XTY#7d27JgD5dr;Uz#R8EH5XF]LF0G[GryB8w_%t~6L)S'TqTYGC*6$bD^3.TB!D0
=b7k0p0zzT=Tlt#+U!&L5cvC_(B=.xgn*~$+=|'Ogv$Yr#d|u=CfE9]XQ#7jB8zf9PDTRS=VHEU3xrws>H!,fu|8xjx(G:#q@0GhDDM#p7,nVAJUg8w
O,ppKq1'No%s_<.E]+2c|]AXZ%CA?[Bd.rP[wPFXUMU:bLsc)%H]O>GWfC(zib[RmyiIRD?tdCKg4=:j2xU++Bco&06f*HX_a$~&C9_(BD'd8h:O<FCl5>
VsDogJHu.v,R1h8MppZ4B&aNlGYNVmie_HT%f>55%PXoHF_ZQDl&@9OW53Yo63N8=ld:uxUj%]1Fy#mjZj25T6Lc(;a(Wv9Dy:1@M#uxX)VYXbiLpS&3+e
=,Q#9*j=b7ky%^3vi.oZ>%d2XO'[1RB65Rs8ZlB#7E&D]j=Y<MDGFIOCP(ScoI:;D<7@<v)k*D$Z)W=.@=A6Lt0n/*.|!1@CT'j7wi23grENl5U.gb`GB
<`4t5[1zbutC<%^t#>?H/sJBoxzq@=4r9gT(0]RL&x6Wj:%0bjvq/(0c(4kQ0D/fX27kBU&TI]m2RnAPDw;cOLVO,evj[0q!eDoSY8%RgB+XU`%3xn|
Nrt$|8<7eT8cIfZ4%$>.3X&qd$IhnW_MrT$0k!8hUXhM/&^KDSMd0oZ2Acs^opoIYml|lRA'bE^AsR93+*rw/*j$b;^o$#K1Vaw)JV:H`*;'8?z6Vi_t7y
OR<tS`egqU,!MkH<hY3^B|YWDHbOxV%cg;mLm<:yspp#;FE^~EPW|8CA+~I;ez|N$mSw|Jc7]k[wmh=Rw4L(JAL$GH'5Y/r`A_M.tHUZ|Uk:B~R6bEr%Hi
>+,Ck:ke/NwRKKf%0rW3:)1DJU6Ig^`/%*F~Kw,wQQ<+W=JWyZp.7g4:snp&4@k]P_8#oQPYDh6'lbu'o/wvA8U+`~:*s%z?LOzR3W<8|=HNZmRb*Tvj(4
YwymM(58r%qAt|G.&mqeX(_$G&D7_c>S+WdIv/dcp_QuSc3Q4`~m,#h?q&9Yg3dQ#J%OKb,^h',FjpCr~a77hp*iu!wDaakCGtp(=A2j9/M77;pv3_y)<
PpUbixjAx/qjx$!?e3PumNynp5LqdFRB(M|s_c9R:R#C<*Q+*CZqXmKj/7Yb`$jNeA+T?M]5*zv,@U'EL)bM+gApHNTbWO1sN/@0#:pb#R<)`UY:jPH'[[
Afj[AEJ_`Hs,%Uo4uJd563Ok=5s^6QZfK!qZI,O0.q!r6OsMk:e#f]cK;LeItV8utb>xHkr+5yQC?4MY:LngI5y;C~aYOYGxCld;*7^)rt.;e=tHF)Y#l<
UF<=/BtWb<.:E:F9qY'$!UMXq369zsn<7OsbeK9%%fKz*A`AWxF4kiP~$cz)$L|v3/xUu!$YfPiKMU;F`JcK8$GkBtp6k^rri7AO&cA)>ur*BO:#n,P.:
L'+M`/,Fk^Mz)1gAuOLq6Zk&SY1Z0f!op2]+B[5B_;Xu<c>fAs~;/Yu,UNpR+|93P*vhfn:(qhj9qr>,ZRsJfZ*tZ52$=5!g]nM$LR;6o;xH0O>0'2y'9'
S7)N3bOAo>.fe3[HPt%fl>_7Q_)w>@H8e6?aBWy'OIM7MZ4t>Udmy_AdaKO2==DeJ2>loQB)&#lm=<|RwbOsi8fox7ZZWi|*C)QGyEeh91t?9qMe([6sS
W;6>oZf$N;OwF%:K3)Q,GpgKJF!/,C]i&zmXTa8;]F0f76>)mcWZAU_Rt[r%4_;+URq=>[aYvaQ31<H`Rl)`4*UlHFY`^+,+ctNoO#Q]FVB@xVkLGa!>C]
Dz@Qp=0w'qcG$Fu?R?^g[x?bg9%./NpjzMO!ma.j5hlF.rZ>i;@xU?qs^C=jcs7_,WWwRDK(CG5CaQw!/TNL9gCLNx3T[[XwV5@!TDGvgX.'r+;@r!]_+B
U5zh<KLjWTZZVu7[iQ!oU[_d:JC1.ZmrncWBpu>HlZSG0`1/*4*gDR8QZBCy||TQJe~3rLkBq&mXYL`VyfC!T(cQPM7!7pLYZ~dc;aY<MRZ7M2/Pp|.c(X
?]V;_2$.@6=6D*v9xh/SUc'k$Y+FOj>dz7)3I8y<x`SvDIaa&.A+`<nk7@>=Zq^3.CF$o,96PjM6#FFRT~@d@pKh4>#[XF_W~%ixZ|Q'p5fXMxi8f=L`pG
361fm~CU8kU|Oa0g?9I[uK.Mivta!v7edGokq~VyJ`5n%~aE9z?'#RU=_'`PpHl7O;,UQf2@1B!#S3?s%AigT=m&/7)yU/=tYd!s&1sxWXloGb_?y[a|CY
5%+*5_$/qoO6yQHFZ,2k.>JrnNROUl7yT2Lv)x/C8mwR@:=viIsLO7PXPb]Jw>2fBSi!c@sGtI_2tOtB5R`b6mggA(Pc;smczv0Q&e/qG4;8:3II^R3
R|xef(+5ZabniH_LKbv7K:mc>L,EkhxmL?KL;&K[hdf?4D9/JLZ59JEc8oxF@kFt4z[HEaUBDVncdx&zJ5B;YZ5VrlD*3X].$Wl6fQ>!YNO1YN9dCd4[(s
T1i.$5%_FQ<Dvo*nyHb*;reUXZ=j?Un@1ya,N|PkvyMz*9AF:,Szpi2.v]$ronIlsoS'n[3As5H??w&IxgK_|!%(_ikJ?|69Ke/:16~gZG]2EMws1K?!H
Ga04luY:]LQFM/kY2xg^B!M*7j,UFe9XtivfDDeaUu1645^!`Da~SCFEu:D9WH`qB9exrDDzj0&A_ph*'cg~pj_;yY.%Z/H`$SEs[iVuM(27S9wdDGw
Wh+omD0Qw`Z>.4|%q@sg|h(Lgwv_PAnJRGfMgs7w9!^)8[BRjEmM=_3>(9c(#q6D7r!GFn4fH6<A'T;u/=SeB%s0ilf2LJRkHa47V`60l.au:gb=TN.E
Nc*cGZz!:H(Sqk^oP$[(#E[K/Zzt]N_<aO`~;<]*+6x%P|TxnzMi9tj|=FaRhls^4g/1_l:sc`:,#+DjLmEjJTy&HC6tC:?KS#p`FB8JJn./FB8<weO7:4
?u|SNBA:mM*sO4qn~yTnw<i5j+8j|sA3E%3ZY~&<;~(Si?r.7b^!l=NDG_mWT[AnBUkOwgl@%PVuB&TNZ')Q_2uF#58k?9(fg=Twa/@btm;Khz0^BkZ8Y
&i]]0?A<t|/^5Hqu'@4ju.lq8RQo~=J.`cBLftf<cMp51]ak9D>uZvR.v@x~l6~+cv/z1W[c6VXc``Fj(?(&>wudK9R@5oiu2IB?w%,tYYm2.~XOU&'REb
Si|yQ>katb>s?YR<P[R&rU@Ltjl/K%N6xQa>`w=pTKxm4W&U7a?mT8=G&Bw</sM@H7Id39AP`%Yu[+*Gd3c&cNVweilN,Zz$x:tGuHIN6G:1BA'D6:0J#
=hJ*oAR>koCSI(R=rIPt7J4NRCNM%NWN:||NYUG=XLoIS[G1yi&pTn[y6g%y.8oXjcxU,omes7HLSdz`;(0cxidP!/Lt^Y&~m8FU+T5@BiiNhuKu|rnBtb
~`knftIGfN7e8_sJj752w~taRbDYl*0_$91W^:CKHPdB/SCAE.mTDy)<KWBH[N1jeR[7pKd?]MfV/z<tPS^X|<`@<RWBnq5,%3+KWdDWTDKuzbREH7z0.
F!)oC1d5&NC,g4]c;6^J?Tc!`2h#zSBmEi8b@rhL/X3A'_(Ghh|x'aa/'jou/W~5]%XoFPNy?y9)*[0P.Oj5E9?0JJ5$,DvO~?p%?l#MWVmX!XsQ0?
Oy^kiN=9/h)Vp~;Wr&5c;evXAfjD_OO%m1TYJ7c??z0T0HOL$Kg8]ddEEW$Gog`a5`zzOZY[jkVWEUHjHT4^+l$Cs*Zh9vB.gMi~P>[)tr[eY!3~;m|K]
8`~tp5mb#Lo^W4>ZZAhw:D*NIS,MW]uaZrz=P~<SuV|#GIZCXi|S)n+<TlB7p>DXwD@H3*Kp^Gl2]_]?l@]z7z2uDV`~~ko!/$IH@/oV.v,.+(1|u9sa)
A.uqfz:yWT=]g6_V&6U&6T*d@Wdt>t@5UZr|cNre[>wr].ylH4O]bg4OB0/j@=:20h5QFZ]'0/upQmY?[YZH]UyO054e's$Mp<rfs,+nj7)vl,YEx~AWY~
Lg(fhTzlg>sK0x13p.K_KrM[6:&[tVoMw3SrMb|G2$z7:fGRW2QcF8OP:'L.wld)$ITbA^Ug!Gh8z;~P&aCNK]zFz'2P281+b`eaOm/C`h7W(nrQ[|mSc
B'U%IUJF!4ar#+j;bL(;9^:3G1&cDQ'PI&aSQ66lS]??Z`zgw<4^suj|u:yl12UkC'[@ZPGpyQ/yLn29b+P#bX2zdFS?Ql!/snj]T(~xm%GNW.w624#TRv
A.A<YBxw$:'>f]OF^w|6wW=H!C)*O2+Ezd&rUuM8mp*b*iNjm4C()4nZ`XV6y&UbZmd@T|?+qR5;PP`L)CpNnEHbPv4x#2_zW|TujcZ0tNa'6bP:t0XhHr
%Z]f0850g,Z9]u/8J%s#[I,L0O:!/2vEL.ey;7FhE#~##M=1g7:>/r;m0I9a$on/Kn+*US<5~a?e(]'Ju9Ow)rOsX]#UwNgh&A(Y.9>z;cAybA9&.c@+Bn
QZxEzL[@O|7aYJqd4Em_30FW(`#x4d:hjErqH$+97%vZ@SvkeE~s#96&UT0u$9[]?:f.5J5b;4hi/gTlgPGPlOJDhRkrEH4]e9CH40|Si0o89v_O=op7KB
?Wqp)gB]gn0NG5;8[D]W/`<3U[J?^IJ=+cWjXFl5Q[;u1fx@NS]@8J*Jfl|)irJWfuo42*0O@hLj+^|p/)j(J3AUTk47@nrTX?3L0G1=rAw2M/HbFrTX)1
U3@B)xl6yE8xymKM)<2:iE%L@,X(XPthV$k2;`/xX8*s|tByrcCGw5PD3x5@VCPl&+eNINQ1WQB2Sj(3&!EsZubKMG<rT.4%=BELW%nj:8keJh?:Gr4]6t
I2wW!P?=a,cpKI@(7DhO[#[xNiIxdy|Kdzo:FUiY%]2bTj@d@~?/%GLn7)DX;n;h%H)?:Ip9&sf,JO'P12@l^Lh[!@*c#,=I*6r)92iWif$_x;_A#fYO>
Pc_o#iG`D'DDHj!m!z_Z=HnE(C`F^..YygR,oTow,cn&nLEp]>g9*ERi;i[tk=871/'Q!:[?O9XDWVL_u8Tv(C=:&nkN3r.6U1)0w(lr:,:`IvsB^I51l$
P@X*5AZ17n3fVp.V@[6Mi:'Rnr[m@?h;j<N?z%,9rX,jHt=#)k@#q185)l%I>ZQqb)rv|)4Hkz'Cz<BYtyG*b!Lsc91F;!h:in'4oj)6(r[5B5wdLuhBXE
=Q.?,7MLV!*zsT1X)c19?aocYz(wMCy#%Ka`WOyr)^FS?fp2;Yxpsw|L'%]Mllys~[?2eWEn|51;r)?D1lNooY'[3zF[pB*Da4LyNztQ1KF0ctu,2Alp(g
?IAl//|;QL4iPQ6b^a)l@]i92`cPpS+SG)VzrGk$6F)GsigVYlRi<Wg.fmQ_T^yTd6u[U_MKj&n1b@6gUI^:s+YtpMnO(|WH!PY~1DE/_n;MqhTk@_93*8
O,,6_>zi>PTJ>rNLG#=;g_Sy#&U&&=oE%rBt__o!i?]v_HNShQ64:>(z<!qf5nD*G@`h@y;l4.PY=W<ic=UlPZ]$|<&3!xRV/?Cju&n(jXX6i11emp0()
C#gF^!DEG:8_t;~DEuTW~w8aX'FfF7V[Fs'sPWvB&B1gO`2GzbZ9ai$4upnt#@Ep1Ow6Hgi~wuz7p]sQcn.IE7rGu0rsX2gHS9nW6)u.|httt^ErUiB@^D
1`,=:<cAfqv9O:Cm|b;P8n`DuYk`jfpXouIYu=5hzTDt6o.k'Epov#UNP?_5w*wbEP;zPg6fRvd^xJ[a@tErAZENEP*NKOiclj/.C9gaZtTW<]'QjW_A(!
?5VGA*)?k9r8,H%dg]~k01)@Kk'D6XX[7nL#$'V9e0%DD4`Ei)v`yuh1E(R2sn%3b1nkM`boVOfz9&X:tCbq/wAb&Y*x~F^?auEA2PkmT:rK&Hz@NO?T]8
6cWt&nC_aw7X8R,4&|(wEY&E]eN|m!<Z@k$IEiq&vpR;eUIU*o+CxEN=OG2Z7;P!m`4LUOtg~l$Vk_q.il=htJtDP3%~%^4*^u*LLhG16nIFoCS9C78G1
2rzJFPBc&O5)+.xjLTO4!*L)Q=!3oTOJsE$b^[qCRjR^_gsO/@7.?0Avv_B6g^^MFRLB3DiyLTt(.%T]<3.AKK<y?gX:&xxKI;l7e=F^)*)wpTr[w)F:s
I#Ka1wXXXJRB,Z;cyv.EiqB.?L0+e>8n?CNCT~/2&DBL9x3bTLw#j>:]J,WR)lcm6H:bRinFE`yi@eZ$1wFj~latogHZ;b3#0>D#+5@S_R+RiE)8;bpM!F
WFX<5[A@)Dm[h2v3?7lQ/(T[]7R%tiPyhBEnWn|?EZ8B(L:n4O?1K~1%C7NaoRh)6h7JP7*t>94v*YT!?o==Eb:=Y+8p*g[jo~k15<?YIpx!AJQCIPM[<q
3cjS(%TgBNPo3)`mG+p#Lw#x^JPKv5HSSp&uF5aJE5l|lP=go$$Xge3V3bP<dKHHx>jh~0jJ4^*U^pGuK1E@s~@.FJ6NGc+p58/o5D$|TIl+Y$U1gg`$(
Yb=%OZv@>G/y@z5Cn;<w(7&4ut);W>HYaA(%d9a!MG0AG(t53I?0Us,|!;6xlg`a^1Q62y=aZt=MNQa'lfmAoMy$iEHra?=3s],)RFb#RDkwO)qZSV[cNw
UO*~kmLFXA3D1&b1Pd.yf7uA1d/q/MscNH3A;?bZPs2W3EBHFJQ.Mj]C`@=sL(VmkQgGRzM8Eu$.Vk&5FOjToRJQ:z>j@)My#Fxw>|0fKyMwQ6sIQ6%|8a
>*]hcF;r]a4MwQ)CY#8MzlXzk4?rdSK0d>!]<Qe<%ECB.n^K1|1$3;2qAy|FLauic)WDscJwN$ZU9lMw@5>`.B)@aiHT58k3SQ4cj3~@::y)thm5g_Qjm&
Z+d#8xQn7U%sLr+(wKG,yL|aSrX7i45Oea[>Q[YZ+dom5`C>$(w#b>qrpKvCGk%`hXFx]Rr0;'Thm,n</JVi#ccOVaps'C<|CtCh>J7I#M%(y*:Hle=L!a
0LGyrOByoX>iGm3t,NC%e2z,>RBU8I'M(rSa+(d&_96%e5'D5SlqULye$%)a~mQCc~1_c(@_e.@MkI=no)NYb3?T$W)|KH]:MPLDQe+e:gjfrNqrB7RIw
Hc'j#dV+vKi2L?*L9t!dm2e#JUxpu%2wdo|oHsF90]q6cf'0JSA7rR;8HCM4*r>tO5M:ZF)nc#&g/e@fw(>)3SaOgb_<ZgUIP#eymB;6MKRb_`5H;o1BD[
F7_kMCZYNuni*6L:tw=Q>r!ZBI_MQCS1qlkCWkk%?bKmfHyRRt5gr9e[#pptqzmY`$&OQRdGbf)cY6,>l4BOK(M<.c3>]pIGV(osSQ|HESBg0/>6|QaoID
5J0z`vLB:=kazlAOV478?g6%~+RTh!1KpbU_]0|,dZXB!n[+>%&D?8$>kSOk4J20TLY9bQ4x~S%pG7a*0Vgid8o1?z^1Pp2x(wSM'YA,:9:,sc'mb6O7>
7nBQ&)f^Wn';Fk`h$lFs#c5a4j(H_A+sJ;U::P|drgi<sYGn2WwhrrPbkm,)eD)O((z<Iz^lmM'+'w|fr;2_e9#[rBh_Wx4<RH;Se7ww#K(|i3y,`18yQ#
L??Ae0w|=<PWl'~&0Z[)@#!kN_T=c$A2hUSP>Qk=FoXH's@cE7T&5mwmd$]|R]XP!CgeW*~>65y:%u8')`GsU,McWG3Gsq*i01bUVdSbmnTu@IAB(Z
P/`m`x]+=&#cCX/?*7]OnO7w,)BW^lJl+sY68fs~)^i?N502KL/w6%Ezn82zbXcln)c~eQvwpJ6aOZr<z[f23rIe]/Lo_=1@+#xap)3VWhR`]9k1I|$Q=W
(fb1MgumKe?$i'K?@B?)0mrT4'Q8dH$f?.sG9`]>I!<vo~x.QOL~UEmE%+p)Mva@o@T$Gep~Na0'<fhlBh*qceUjF'[`L2HPao@VI)X6u+h[o&7@Gh39i5
Bd[x)6y]Kr.<%%<!]|tkjwjP?`lIC|y*u;or|wz|6j|u*f,('/ng:aT>`CP&?*d3fw7(;Z9,/9p^S@L8LI7,oXDDxQO6.6fj|S@gNl~[4,J5]bf7uNo:
HuhB:/Ik*l@8$!wkk'*SkmAipcQ`@q)OVP;)TRpd2*'.6<yAkzz6EPm|jT<)uT<S=h]N@'Vz.ohf/;r|C8nz^>feYaF8agkP$F?Wrs+5BEMWqv90SVBC
>kj3zH2RPFlr*Qx|d6Zb,ka7b7F/d0tu*bW6pbee4$xSs89T~!CkRCFhXDRuHJ&Xi=IJ#~b5tHvI<1JzNh>X&ChHM)sJAXYyd%vSXwJ@3F1aYxN3.keOyE
D+Vt*0~>*YYS0?nbRs44i),/`H)6Yt5[8z7r+)yVzObWJW/UT>5vC%YDT)fsSTE!yI/5JW4j#^_1E|?qHyzh~B+`i|.euPb[F7z5n]D4^;,6669/P=WYE
Ri%eK,8DdFfC<m30`ArUdNv0sc2`e&c_2)~)fR|GcE%<DSg/kT]NO[`)hF$YgAK%s%XzAk+%.^mtixiQJD3h9CqvQ8*aPSX!Hcv*@kT@/u6%4<L]bPJO
Ya:,C9QAvDhJkmZayX,<@9nVQQzt=Cz2HV_Hc1E`fx83psa*!Kf9%~4(|mKc.8@g=EP,1oTrpTN`rEwLveNE#1$KC'M!gpex*:WB4<$$yzU6ar`fjwQy9
5@J(QuGlWJOq71l008v_/GT7S1~=ZIf[DsaBDql`czn'uo[r.>:TtVeWXGQgu|&W'hDk|J)W0LzJa>(<_l;(/l|tnAD5tSlxA6oK`fK?W0>KM#u(XsDWPq
7xhX%g^Z]%cHV#MZ^'J*&d0W!WQ)5!w53NvoXkma?x2^~;.H9H?c8CJ<n+g>Af[;(w([9pbSp.re^od|,s.hY*hhBil`Pm2/vFcW^fjmMub784mzC905
V@m~D:n7L#F$8hG^E#txjmO5RznoXZs1|dcx4:eoyx;yWNru/Py;,h~n@1[ob;7UmOl4MH*Af4<Qw6+H_M0w/:!t|qV%Ik3OYATi6?xVVdt~E(N0[JqcIi
B90Q8)5#x'%86Laa6PL6?R09)m[C7m^k@_uaPEvUP|dv;L]T_()iu&=?&M;:$~!+~;T[:7/0![i,ZEvH%S%0i=%b8`guG+iJu|ky;&+Eks4q!5k$5=knI^
9iK2*PPlzU.#Mo*/SXUGU,%y^oG`$XW=+KDDzK%`d^e<qdJ)rR^H^8T'[:Ht+u9zGp+ih4#n|8`||qoi5#S#U.;/'.v4Jo9],^;XH&0PZgz19yyI?G;:K
Q^5iedn7bl%`N]gj]Iu$54|'bH]wYUf|BhtexmYn((qt%G6v~3EBeckF*W3kjtTlrjTjT*QN2Kd(34k4ltFBtMB.,o2FtBaYuNjS?O2YN^ki(IBObc,?H>
0YZHg.=J&xgQ+_NVbgAxF[,+PiPF~JjSM>C=fnHLNhQN_vRI#h<'8ic@&p``/Qh%Ta/=[]&mZ9_$Oy_DeyMi%7Q*<uo#YG@_BlEUzmnr#.fgKke;!
5a!+':INP^J8+L]acr#$waKuvY1_5[Q8U>@%y4/07.[n^6yHkRd'HhBywYNNm&RKLt,XUs27hrqV3|02R')OFMa/J9Q$DI]/@ORaT8UeL&^uz[;UOp:bA.
=2C6^w[Qlt?+LExAQ]@Oi`l8g`Ks!_@PC@K!3)PDp9n;t%Q0E4vmSAtG8x>n2i>i;(0<O<`F'1^J:2y9=&E)#IA=Jsy+/[D1.y</4~zwLD/=<6D3S|*;5U
0X#kaeAYe^cB^m(>%]I%|%Lxvzj9|T4fK(2vzna4+e|u7!|rrf7JI8VYCLm%0lUWDxXx0lLX2D%F#=>@.;Z54yeWHY?^tz?TEzgGwET'd'xt@:iq0.s]Bo
6j'mP=5a%,ts;9bQ%=rxmG$c4ocAtTuzUu!TeCc)>:;^c5EWkw_Omc7zNXYp>sDgs3cV&'^[LvbKL.x]J+r=BK#wtN~N:F+Pw$;mRmX"

def packedNamesLength : Nat := 274350

end CCompiler.Text
