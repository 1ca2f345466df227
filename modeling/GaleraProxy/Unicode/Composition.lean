import GaleraProxy.Unicode.Table

/-!
# Canonical composition

`composed` brings a text into the form in which each character is written with as few code points as
its canonical equivalences allow: it decomposes, sorts each run of marks by their class, and joins a
starter with the marks that follow it.
-/

namespace GaleraProxy.Unicode

/-- Letter `D` with the canonical decomposition of a character as operands. -/
def decompositionTable : Table := .ofText
  "5cN 1D1t,lc 1D1t,ld 1D1t,le 1D1t,lf 1D1t,lk 1D1t,lm 1N 1D1v,mf 1D1x,lc 1D1x,ld 1D1x,le 1D1x,lk
1D21,lc 1D21,ld 1D21,le 1D21,lk 1N 1D26,lf 1D27,lc 1D27,ld 1D27,le 1D27,lf 1D27,lk 2N 1D2d,lc
1D2d,ld 1D2d,le 1D2d,lk 1D2h,ld 2N 1D2p,lc 1D2p,ld 1D2p,le 1D2p,lf 1D2p,lk 1D2p,lm 1N 1D2r,mf
1D2t,lc 1D2t,ld 1D2t,le 1D2t,lk 1D2x,lc 1D2x,ld 1D2x,le 1D2x,lk 1N 1D32,lf 1D33,lc 1D33,ld 1D33,le
1D33,lf 1D33,lk 2N 1D39,lc 1D39,ld 1D39,le 1D39,lk 1D3d,ld 1N 1D3d,lk 1D1t,lg 1D2p,lg 1D1t,li
1D2p,li 1D1t,mg 1D2p,mg 1D1v,ld 1D2r,ld 1D1v,le 1D2r,le 1D1v,lj 1D2r,lj 1D1v,lo 1D2r,lo 1D1w,lo
1D2s,lo 2N 1D1x,lg 1D2t,lg 1D1x,li 1D2t,li 1D1x,lj 1D2t,lj 1D1x,mg 1D2t,mg 1D1x,lo 1D2t,lo 1D1z,le
1D2v,le 1D1z,li 1D2v,li 1D1z,lj 1D2v,lj 1D1z,mf 1D2v,mf 1D20,le 1D2w,le 2N 1D21,lf 1D2x,lf 1D21,lg
1D2x,lg 1D21,li 1D2x,li 1D21,mg 1D2x,mg 1D21,lj 3N 1D22,le 1D2y,le 1D23,mf 1D2z,mf 1N 1D24,ld
1D30,ld 1D24,mf 1D30,mf 1D24,lo 1D30,lo 4N 1D26,ld 1D32,ld 1D26,mf 1D32,mf 1D26,lo 1D32,lo 3N
1D27,lg 1D33,lg 1D27,li 1D33,li 1D27,ln 1D33,ln 2N 1D2a,ld 1D36,ld 1D2a,mf 1D36,mf 1D2a,lo 1D36,lo
1D2b,ld 1D37,ld 1D2b,le 1D37,le 1D2b,mf 1D37,mf 1D2b,lo 1D37,lo 1D2c,mf 1D38,mf 1D2c,lo 1D38,lo 2N
1D2d,lf 1D39,lf 1D2d,lg 1D39,lg 1D2d,li 1D39,li 1D2d,lm 1D39,lm 1D2d,ln 1D39,ln 1D2d,mg 1D39,mg
1D2f,le 1D3b,le 1D2h,le 1D3d,le 1D2h,lk 1D2i,ld 1D3e,ld 1D2i,lj 1D3e,lj 1D2i,lo 1D3e,lo xN 1D27,m3
1D33,m3 dN 1D2d,m3 1D39,m3 sN 1D1t,lo 1D2p,lo 1D21,lo 1D2x,lo 1D27,lo 1D33,lo 1D2d,lo 1D39,lo
1D64,lg 1D70,lg 1D64,ld 1D70,ld 1D64,lo 1D70,lo 1D64,lc 1D70,lc 1N 1D5g,lg 1D6c,lg 1Dfa,lg 1Dfb,lg
1D5i,lg 1D6e,lg 2N 1D1z,lo 1D2v,lo 1D23,lo 1D2z,lo 1D27,mg 1D33,mg 1Ddm,lg 1Ddn,lg 1Dc7,lo 1Dia,lo
1D2y,lo 3N 1D1z,ld 1D2v,ld 2N 1D26,lc 1D32,lc 1D5h,ld 1D6d,ld 1D5i,ld 1D6e,ld 1D60,ld 1D6w,ld
1D1t,lr 1D2p,lr 1D1t,lt 1D2p,lt 1D1x,lr 1D2t,lr 1D1x,lt 1D2t,lt 1D21,lr 1D2x,lr 1D21,lt 1D2x,lt
1D27,lr 1D33,lr 1D27,lt 1D33,lt 1D2a,lr 1D36,lr 1D2a,lt 1D36,lt 1D2d,lr 1D39,lr 1D2d,lt 1D39,lt
1D2b,me 1D37,me 1D2c,me 1D38,me 2N 1D20,lo 1D2w,lo 6N 1D1t,lj 1D2p,lj 1D1x,mf 1D2t,mf 1D5y,lg
1D6u,lg 1D5x,lg 1D6t,lg 1D27,lj 1D33,lj 1Dfi,lg 1Dfj,lg 1D2h,lg 1D3d,lg 7gN 1Dlc 1Dld 1N 1Dlv
1Dlk,ld 1bN 1Djd 9N 1D1n 6N 1D4o,ld 1Dpd,ld 1D53 1Dph,ld 1Dpj,ld 1Dpl,ld 1N 1Dpr,ld 1N 1Dpx,ld
1Dq1,ld 1Dqy,ld pN 1Dpl,lk 1Dpx,lk 1Dq9,ld 1Dqd,ld 1Dqf,ld 1Dqh,ld 1Dqz,ld pN 1Dqh,lk 1Dqt,lk
1Dqn,ld 1Dqt,ld 1Dqx,ld 4N 1Dr6,ld 1Dr6,lk 17N 1Dt1,lc 1Dt1,lk 1N 1Dsz,ld 3N 1Dsm,lk 4N 1Dt6,ld
1Dt4,lc 1Dtf,li aN 1Dt4,li vN 1Du0,li mN 1Dtx,lc 1Dtx,lk 1N 1Dtv,ld 3N 1Duu,lk 4N 1Du2,ld 1Du0,lc
1Dub,li nN 1Dvo,lr 1Dvp,lr 21N 1Dt2,li 1Dty,li dN 1Dsw,li 1Dts,li 1Dsw,lk 1Dts,lk 2N 1Dt1,li
1Dtx,li 2N 1Dyg,lk 1Dyh,lk 1Dt2,lk 1Dty,lk 1Dt3,lk 1Dtz,lk 2N 1Dt4,lg 1Du0,lg 1Dt4,lk 1Du0,lk
1Dta,lk 1Du6,lk 2N 1Dyw,lk 1Dyx,lk 1Dtp,lk 1Dul,lk 1Dtf,lg 1Dub,lg 1Dtf,lk 1Dub,lk 1Dtf,ln 1Dub,ln
1Dtj,lk 1Duf,lk 2N 1Dtn,lk 1Duj,lk 88N 1D17r,18z 1D17r,190 1D18o,190 1D17r,191 1D18q,190 49N
1D1cl,190 1N 1D1c1,190 gN 1D1ci,190 glN 1D1t4,1to 7N 1D1tc,1to 2N 1D1tf,1to zN 1D1sl,1to 1D1sm,1to
1D1sn,1to 1D1ss,1to 1D1sx,1to 1D1sy,1to 1D1t7,1to 1D1tb,1to 2zN 1D1xj,1xa 1D1xj,1xz fN 1D1wh,1x8
1D1wi,1x8 1N 1D1wv,1x8 2bN 1D20i,20s 2N 1D20o,20s yN 1D1zq,20s 1D1zr,20s 1D1zw,20s 2N 1D20b,20s
6hN 1D287,28m 2N 1D287,27y 1D287,28n fN 1D275,27w 1D276,27w 1iN 1D2aa,2c7 1hN 1D2bq,2bi 1D2br,2bi
1D2bq,2c7 3fN 1D2fa,2fq 3bN 1D2in,2j9 6N 1D2iu,2j9 1D2iu,2ja 1N 1D2iu,2iq 1D2iy,2j9 3iN 1D2me,2m6
1D2mf,2m6 1D2me,2mv 3xN 1D2qh,2q2 1N 1D2qh,2q7 1D2qk,2q2 1D2qh,2qn 9wN 1D30i,33r 9N 1D30s,33r 4N
1D30x,33r 4N 1D312,33r 4N 1D317,33r cN 1D30g,33p 9N 1D31t,31u 1N 1D31t,31w 1D33m,328 1N 1D33n,328
8N 1D31t,328 hN 1D32q,33r 9N 1D330,33r 4N 1D335,33r 4N 1D33a,33r 4N 1D33f,33r cN 1D32o,33p 30N
1D36t,372 25bN 1D5c5,5dh 1N 1D5c7,5dh 1N 1D5c9,5dh 1N 1D5cb,5dh 1N 1D5cd,5dh 3N 1D5ch,5dh 14N
1D5dm,5dh 1N 1D5do,5dh 2N 1D5dq,5dh 1D5dr,5dh 1N 1D5du,5dh jgN 1D1t,md 1D2p,md 1D1u,lj 1D2q,lj
1D1u,mb 1D2q,mb 1D1u,mp 1D2q,mp 1D5j,ld 1D6f,ld 1D1w,lj 1D2s,lj 1D1w,mb 1D2s,mb 1D1w,mp 1D2s,mp
1D1w,mf 1D2s,mf 1D1w,ml 1D2s,ml 1D7m,lc 1D7n,lc 1D7m,ld 1D7n,ld 1D1x,ml 1D2t,ml 1D1x,mo 1D2t,mo
1Dfc,li 1Dfd,li 1D1y,lj 1D2u,lj 1D1z,lg 1D2v,lg 1D20,lj 1D2w,lj 1D20,mb 1D2w,mb 1D20,lk 1D2w,lk
1D20,mf 1D2w,mf 1D20,mm 1D2w,mm 1D21,mo 1D2x,mo 1D5r,ld 1D6n,ld 1D23,ld 1D2z,ld 1D23,mb 1D2z,mb
1D23,mp 1D2z,mp 1D24,mb 1D30,mb 1D5yu,lg 1D5yv,lg 1D24,mp 1D30,mp 1D24,ml 1D30,ml 1D25,ld 1D31,ld
1D25,lj 1D31,lj 1D25,mb 1D31,mb 1D26,lj 1D32,lj 1D26,mb 1D32,mb 1D26,mp 1D32,mp 1D26,ml 1D32,ml
1D5x,ld 1D6t,ld 1D5x,lk 1D6t,lk 1D98,lc 1D99,lc 1D98,ld 1D99,ld 1D28,ld 1D34,ld 1D28,lj 1D34,lj
1D2a,lj 1D36,lj 1D2a,mb 1D36,mb 1D5zu,lg 1D5zv,lg 1D2a,mp 1D36,mp 1D2b,lj 1D37,lj 1D2b,mb 1D37,mb
1D9m,lj 1D9n,lj 1D9s,lj 1D9t,lj 1D602,lj 1D603,lj 1D2c,lj 1D38,lj 1D2c,mb 1D38,mb 1D2c,mp 1D38,mp
1D2c,ml 1D38,ml 1D2d,mc 1D39,mc 1D2d,mo 1D39,mo 1D2d,ml 1D39,ml 1Da0,ld 1Da1,ld 1Da2,lk 1Da3,lk
1D2e,lf 1D3a,lf 1D2e,mb 1D3a,mb 1D2f,lc 1D3b,lc 1D2f,ld 1D3b,ld 1D2f,lk 1D3b,lk 1D2f,lj 1D3b,lj
1D2f,mb 1D3b,mb 1D2g,lj 1D3c,lj 1D2g,lk 1D3c,lk 1D2h,lj 1D3d,lj 1D2i,le 1D3e,le 1D2i,mb 1D3e,mb
1D2i,mp 1D3e,mp 1D2w,mp 1D38,lk 1D3b,lm 1D3d,lm 1N 1Dan,lj 4N 1D1t,mb 1D2p,mb 1D1t,ll 1D2p,ll
1D5e,ld 1D6a,ld 1D5e,lc 1D6a,lc 1D5e,ll 1D6a,ll 1D5e,lf 1D6a,lf 1D61s,le 1D61t,le 1D76,ld 1D77,ld
1D76,lc 1D77,lc 1D76,ll 1D77,ll 1D76,lf 1D77,lf 1D61s,li 1D61t,li 1D1x,mb 1D2t,mb 1D1x,ll 1D2t,ll
1D1x,lf 1D2t,lf 1D5m,ld 1D6i,ld 1D5m,lc 1D6i,lc 1D5m,ll 1D6i,ll 1D5m,lf 1D6i,lf 1D62g,le 1D62h,le
1D21,ll 1D2x,ll 1D21,mb 1D2x,mb 1D27,mb 1D33,mb 1D27,ll 1D33,ll 1D5w,ld 1D6s,ld 1D5w,lc 1D6s,lc
1D5w,ll 1D6s,ll 1D5w,lf 1D6s,lf 1D630,le 1D631,le 1Dbk,ld 1Dbl,ld 1Dbk,lc 1Dbl,lc 1Dbk,ll 1Dbl,ll
1Dbk,lf 1Dbl,lf 1Dbk,mb 1Dbl,mb 1D2d,mb 1D39,mb 1D2d,ll 1D39,ll 1Dbz,ld 1Dc0,ld 1Dbz,lc 1Dc0,lc
1Dbz,ll 1Dc0,ll 1Dbz,lf 1Dc0,lf 1Dbz,mb 1Dc0,mb 1D2h,lc 1D3d,lc 1D2h,mb 1D3d,mb 1D2h,ll 1D3d,ll
1D2h,lf 1D3d,lf 6N 1Dq9,lv 1Dq9,lw 1D64g,lc 1D64h,lc 1D64g,ld 1D64h,ld 1D64g,n6 1D64h,n6 1Dpd,lv
1Dpd,lw 1D64o,lc 1D64p,lc 1D64o,ld 1D64p,ld 1D64o,n6 1D64p,n6 1Dqd,lv 1Dqd,lw 1D64w,lc 1D64x,lc
1D64w,ld 1D64x,ld 2N 1Dph,lv 1Dph,lw 1D654,lc 1D655,lc 1D654,ld 1D655,ld 2N 1Dqf,lv 1Dqf,lw
1D65c,lc 1D65d,lc 1D65c,ld 1D65d,ld 1D65c,n6 1D65d,n6 1Dpj,lv 1Dpj,lw 1D65k,lc 1D65l,lc 1D65k,ld
1D65l,ld 1D65k,n6 1D65l,n6 1Dqh,lv 1Dqh,lw 1D65s,lc 1D65t,lc 1D65s,ld 1D65t,ld 1D65s,n6 1D65t,n6
1Dpl,lv 1Dpl,lw 1D660,lc 1D661,lc 1D660,ld 1D661,ld 1D660,n6 1D661,n6 1Dqn,lv 1Dqn,lw 1D668,lc
1D669,lc 1D668,ld 1D669,ld 2N 1Dpr,lv 1Dpr,lw 1D66g,lc 1D66h,lc 1D66g,ld 1D66h,ld 2N 1Dqt,lv
1Dqt,lw 1D66o,lc 1D66p,lc 1D66o,ld 1D66p,ld 1D66o,n6 1D66p,n6 1N 1Dpx,lw 1N 1D66x,lc 1N 1D66x,ld
1N 1D66x,n6 1Dqx,lv 1Dqx,lw 1D674,lc 1D675,lc 1D674,ld 1D675,ld 1D674,n6 1D675,n6 1Dq1,lv 1Dq1,lw
1D67c,lc 1D67d,lc 1D67c,ld 1D67d,ld 1D67c,n6 1D67d,n6 1Dq9,lc 1Dq4 1Dqd,lc 1Dq5 1Dqf,lc 1Dq6
1Dqh,lc 1Dq7 1Dqn,lc 1Dr0 1Dqt,lc 1Dr1 1Dqx,lc 1Dr2 2N 1D64g,n9 1D64h,n9 1D64i,n9 1D64j,n9
1D64k,n9 1D64l,n9 1D64m,n9 1D64n,n9 1D64o,n9 1D64p,n9 1D64q,n9 1D64r,n9 1D64s,n9 1D64t,n9 1D64u,n9
1D64v,n9 1D65c,n9 1D65d,n9 1D65e,n9 1D65f,n9 1D65g,n9 1D65h,n9 1D65i,n9 1D65j,n9 1D65k,n9 1D65l,n9
1D65m,n9 1D65n,n9 1D65o,n9 1D65p,n9 1D65q,n9 1D65r,n9 1D674,n9 1D675,n9 1D676,n9 1D677,n9 1D678,n9
1D679,n9 1D67a,n9 1D67b,n9 1D67c,n9 1D67d,n9 1D67e,n9 1D67f,n9 1D67g,n9 1D67h,n9 1D67i,n9 1D67j,n9
1Dq9,li 1Dq9,lg 1D67k,n9 1Dq9,n9 1Dq4,n9 1N 1Dq9,n6 1D69i,n9 1Dpd,li 1Dpd,lg 1Dpd,lc 1Dp2 1Dpd,n9
1N 1Dqh 2N 1D4o,n6 1D67o,n9 1Dqf,n9 1Dq6,n9 1N 1Dqf,n6 1D69y,n9 1Dph,lc 1Dp4 1Dpj,lc 1Dp5 1Dpj,n9
1D69r,lc 1D69r,ld 1D69r,n6 1Dqh,li 1Dqh,lg 1Dqy,lc 1Dpc 2N 1Dqh,n6 1Dqy,n6 1Dpl,li 1Dpl,lg 1Dpl,lc
1Dp6 1N 1D6bi,lc 1D6bi,ld 1D6bi,n6 1Dqt,li 1Dqt,lg 1Dqz,lc 1Dq8 1Dqp,lv 1Dqp,lw 1Dqt,n6 1Dqz,n6
1Dpx,li 1Dpx,lg 1Dpx,lc 1Dpa 1Dpt,lw 1D4o,lc 1Dp1 1D2o 2N 1D67w,n9 1Dqx,n9 1Dr2,n9 1N 1Dqx,n6
1D6ba,n9 1Dpr,lc 1Dp8 1Dq1,lc 1Dpb 1Dq1,n9 1D50 2N 1D6bm 1D6bn 84N 1Dq1 3N 1D23 1D5h 32N 1D6mo,mw
1D6mq,mw iN 1D6ms,mw uN 1D6og,mw 1D6ok,mw 1D6oi,mw 1gN 1D6pv,mw 4N 1D6q0,mw 2N 1D6q3,mw nN
1D6qr,mw 1N 1D6qt,mw qN 1D6rg,mw 2N 1D6rn,mw 2N 1D6rp,mw 1N 1D6rs,mw mN 1D1p,mw 1N 1D6sh,mw aN
1D6rx,mw 1D1o,mw 1D1q,mw 1D6sk,mw 1D6sl,mw 2N 1D6sy,mw 1D6sz,mw 2N 1D6t2,mw 1D6t3,mw 6N 1D6t6,mw
1D6t7,mw 2N 1D6te,mw 1D6tf,mw 2N 1D6ti,mw 1D6tj,mw yN 1D6ua,mw 1D6ug,mw 1D6uh,mw 1D6uj,mw 1cN
1D6t8,mw 1D6t9,mw 1D6tt,mw 1D6tu,mw 6N 1D6uq,mw 1D6ur,mw 1D6us,mw 1D6ut,mw 1nN 1D9hk 1D9hl 1ipN
1D8gt,mw 12nN 1D9jf,9ll 1N 1D9jh,9ll 1N 1D9jj,9ll 1N 1D9jl,9ll 1N 1D9jn,9ll 1N 1D9jp,9ll 1N
1D9jr,9ll 1N 1D9jt,9ll 1N 1D9jv,9ll 1N 1D9jx,9ll 1N 1D9jz,9ll 1N 1D9k1,9ll 2N 1D9k4,9ll 1N
1D9k6,9ll 1N 1D9k8,9ll 6N 1D9kf,9ll 1D9kf,9lm 1N 1D9ki,9ll 1D9ki,9lm 1N 1D9kl,9ll 1D9kl,9lm 1N
1D9ko,9ll 1D9ko,9lm 1N 1D9kr,9ll 1D9kr,9lm mN 1D9ja,9ll 9N 1D9lp,9ll dN 1D9m3,9ll 1N 1D9m5,9ll 1N
1D9m7,9ll 1N 1D9m9,9ll 1N 1D9mb,9ll 1N 1D9md,9ll 1N 1D9mf,9ll 1N 1D9mh,9ll 1N 1D9mj,9ll 1N
1D9ml,9ll 1N 1D9mn,9ll 1N 1D9mp,9ll 2N 1D9ms,9ll 1N 1D9mu,9ll 1N 1D9mw,9ll 6N 1D9n3,9ll 1D9n3,9lm
1N 1D9n6,9ll 1D9n6,9lm 1N 1D9n9,9ll 1D9n9,9lm 1N 1D9nc,9ll 1D9nc,9lm 1N 1D9nf,9ll 1D9nf,9lm mN
1D9ly,9ll 2N 1D9nz,9ll 1D9o0,9ll 1D9o1,9ll 1D9o2,9ll 3N 1D9od,9ll 13i9N 1Drpk 1Dkc4 1Ds7e 1Drt4
1Dlw1 1Dfg2 1Dgkl 2Dvj0 1Dhn5 1Dssx 1Dgw7 1Dhmw 1Djcm 1Dne1 1Dp6t 1Dqin 1Dqt6 1Dr20 1Dsjz 1Dkxu
1Dljv 1Dmah 1Dmvy 1Dq4d 1Dsq2 1Duep 1Dfia 1Dghh 1Dl50 1Dmjf 1Dqi5 1Dv8e 1Difk 1Dm3v 1Dqfh 1Dr50
1Djih 1Dpnc 1Dqvz 1Diq2 1Dkd3 1Dlm2 1Dmpo 1Dslq 1Dfpi 1Dg53 1Dgda 1Djwk 1Dl3n 1Dmj4 1Dnhj 1Dpa9
1Dqh2 1Dqjg 1Ds1b 1Dtv6 1Dupb 1Dv7e 1Dnt8 1Dnzz 1Dotc 1Dq15 1Dt1g 1Dvb3 1Drfa 1Dhjz 1Diro 1Dokg
1Dpdq 1Dmle 1Dnuy 1Drsy 1Dttj 1Dhjs 1Di8y 1Dkyb 1Dlp6 1Dlxr 1Doq7 1Doxj 1Dtor 1Dgcy 1Dpe3 1Dg64
1Dg5o 1Do4c 1Dou6 1Dq29 1Dtpx 1Drk0 1Djin 1Dkxu 1Drge 1Dfg9 1Di5j 1Diz6 1Dmtj 1Dn74 1Dgev 1Dnwb
1Dfr3 1Diw9 1Dff1 1Dlho 1Dk1k 1Dopu 1Dgjn 1Dhge 1Dni9 1Dq4p 1Dre2 1Dla2 1Dsds 1Dlfs 1Djjy 1Dput
1Djog 1Dn6t 1Dfji 1Dg2x 1Dg5l 1Dkn5 1Doo7 1Dprj 1Drf6 1Dssv 1Dgdx 1Dgn6 1Dho3 1Dir0 1Dk3p 1Dm4e
1Dnxm 1Dtkd 1Dui2 1Dvbr 1Dvda 1Dgbf 1Dkau 1Dl87 1Dsbm 1Dino 1Dj9s 1Djcw 1Djve 1Dlyb 1Dmdl 1Dn0p
1Do22 1Dovo 1Dpdb 1Ds9y 1Dq9a 1Dsgz 1Dt3e 1Dg7r 1Dgbn 1Dgql 1Dma0 1Dr0i 1Dre2 1Diq1 1Diyd 1Djnf
1Dl9q 1Doji 1Dmt1 1Dfl0 1Dh6h 1Di5j 1Diii 1Dizg 1Dmuq 1Dmzt 1Dp7e 1Dpc6 1Dsvo 1Dtti 1Dtvs 1Du1k
1Dfpn 1Do1a 1Dss4 1Dtrs 1Dj4x 1Dfie 1Dfyy 1Di5q 1Di7z 1Dk2h 1Dkxu 1Dmha 1Dncy 1Dq9o 1Dsjg 1Dvil
1Dk94 1Dtny 1Dgax 1Dkfv 1Dkj7 1Dlkx 1Dluk 1Dmx5 1Dn6h 1Dnsb 1Dopc 1Du3i 1Dg31 1Dje6 1Dtq0 1Dfu3
1Die1 1Dlpm 1Dsa2 1Divf 1Dj7o 1Dkk7 1Dmtj 1Dtqe 1Dg89 1Dglr 1Di91 1Dk5v 1Dkem 1Dko8 1Dlid 1Dmx2
1Dnaa 1Dp6h 1Dr0v 1Dr1d 1Dsss 1Dtsy 1Dgfz 1Dlve 1Dgm5 1Dmhc 1Dn14 1Dqgq 1Dtr7 1Duvr 1Dvbz 1Dkgn
1Dlor 1Dpns 1Do97 1Dobk 1Dolu 1Dmo0 1Dm8p 1Driw 1Dfk0 1Dpx2 1Dg8q 1Dg7b 1Dip2 1Djir 1Donq 1Di2t
1Dljy 1Dkac 1Dsaj 1Dqx8 1Dtot 1Dr63 1Diqb 1Dg1s 1Dgxs 2N 1Dhga 1N 1Dk8k 2N 1Dg66 1Dmqy 1Dngq 1Dny4
1Dnz2 1Dnz9 1Do0f 1Dtw6 1Don2 1Dp8d 1N 1Dqhe 1N 1Drg8 2N 1Dshk 1Dsn1 3N 1Du7j 1Du7w 1Du94 1Dv5g
1Dsm6 1Dtrr 1Dfqm 1Dfzb 1Dg25 1Dgcp 1Dgdg 1Dggh 1Dgwt 1Dgzq 1Dh2g 1Dhfk 1Dhig 1Di90 1Di9a 1Dj2s
1Dj8o 1Dj9q 1Djci 1Dk0f 1Dk4i 1Dk9d 1Dkn9 1Dlmf 1Dlqy 1Dlya 1Dmem 1Dmjv 1Dmxu 1Dntd 1Dny6 1Dnyh
1Dnyg 1Dnyo 1Dnyu 1Dnz1 1Do0d 1Do0e 1Do5c 1Do75 1Dog0 1Dovo 1Dow9 1Doxt 1Dp6a 1Dpad 1Dpnx 2Dprt
1Dq53 1Dr2o 1Dr6e 1Drgh 1Dri1 1Drtf 1Druw 1Dsdy 1Dshk 1Dtsz 1Du0v 1Du2j 1Dj1x 1D36cu 1Dpp4 2N
1Dffq 1Dg51 1Dg2w 1Dfpc 1Dg1x 1Dg3k 1Dgcn 1Dge2 1Dgwt 1Dgut 1Dgwp 1Dgyq 1Dhga 1Dhir 1Dhms 1Dhn8
1Dhuq 1Di08 1Diqa 1Diqh 1Diuh 1Diwd 1Dj4o 1Dj7y 1Dj60 1Dj9q 1Dj8g 1Djci 1Djec 1Djpg 1Djrw 1Djte
1Dk0m 1Dk8k 1Dkd3 1Dkd7 1Dkeu 1Dl89 1Dla2 1Dlkx 1Dlwb 1Dlvv 1Dlya 1Dm5a 1Dmem 1Dnmv 1Dmk5 1Dmnj
1Dmqy 1Dn01 1Dn46 1Dn5n 1Dnbx 1Dnbz 1Dngq 1Dnh7 1Dnhw 1Dnka 1Dnk0 1Dnv0 1Do8h 1Dog0 1Dol7 1Dorf
1Dovo 1Dp4u 1Dpad 1Dpxu 1Dq27 1Dqrd 1Dr41 1Dr5y 1Dr6e 1Dren 1Drg8 1Drez 1Drgh 1Drge 1Drfx 1Dri1
1Drka 1Druw 1Dsag 1Dsj6 1Dsrd 1Dsxi 1Dtq4 1Dtsz 1Dtw6 1Dtzv 1Du0v 1Du17 1Du2j 1Dumq 1Dvj0 1D313e
1D3138 1D33dh 1Dbrx 1Dcns 1Dcop 1D39e1 1D3bgw 1D3i6r 1Dvgj 1Dvim 1vN 1D15l,14k 1N 1D16a,14n aN
1D161,14x 1D161,14y 1D1dmx,14x 1D1dmx,14y 1D15c,14n 1D15c,14o 1D15c,14s 1D15d,14s 1D15e,14s
1D15f,14s 1D15g,14s 1D15h,14s 1D15i,14s 1N 1D15k,14s 1D15l,14s 1D15m,14s 1D15n,14s 1D15o,14s 1N
1D15q,14s 1N 1D15s,14s 1D15t,14s 1N 1D15v,14s 1D15w,14s 1N 1D15y,14s 1D15z,14s 1D160,14s 1D161,14s
1D162,14s 1D15h,14p 1D15d,14v 1D15n,14v 1D15w,14v 47fN 1D1huh,1hve 1N 1D1huj,1hve eN 1D1hut,1hve
3mN 1D1hyp,1hyf 1D1hyq,1hyf ezN 1D1idj,1ida 1D1idj,1idz a6N 1D1int,1inu 1D1int,1ink 1N 1D1int,1inx
6zN 1D1iuw,1iun 1D1iux,1iun osN 1D1jjp,1jjk 10dhN 1D2jx3,2jxh 1D2jx4,2jxh 1D2jxb,2jxq 1D2jxb,2jxr
1D2jxb,2jxs 1D2jxb,2jxt 1D2jxb,2jxu 2eN 1D2jzt,2jxh 1D2jzu,2jxh 1D2jzv,2jxq 1D2jzw,2jxq
1D2jzv,2jxr 1D2jzw,2jxr 1m4fN 1Dfgd 1Dfg8 1Dfgh 1D2tcy 1Dfog 1Dfqm 1Dfqz 1Dfsy 1Dfwa 1Dfx5 1Dfzb
1Dfyn 1Dae6 1D2ud6 1Dg25 1Dg2c 1Dg2s 1Dg3b 1D2u58 1Daex 1Dg2v 1Dg3x 1D2u6j 1Dg47 1Dg4k 1Dfkc 1Dg4s
1Dg51 1D3ly7 1Dg6t 1Dg77 1Dafz 1Dg8r 1Dg92 1Dgaa 1Dgaf 1Dahh 1Dgcn 1Dgcp 1Dgdg 1Dge2 1Dged 1Dgee
1Dgev 1Dgg9 1Dggh 1Dggq 1Dghf 1Dghp 3Dghr 1D2v58 1Dm7k 1Dgju 1Dgkf 1D2vdv 1Dgkr 1Dgkx 1Dgli 1Dgpq
1Dgmw 1Dgnc 1Dgo8 1Dgpu 1Dgs6 1Dgsw 1Dgur 1Dgv7 2Dgw4 1Dgwp 1Dgx7 1Dgxf 1Dgxu 1Dh7a 1Dgzq 1Dh7b
1Dh1t 1Dh2s 1Dg7b 1Dhke 1Dhce 1Dhdg 1Dhe5 1Dhaj 1Dhf6 1Dhf5 1Dhik 1D2x9g 1Dhki 1Dhkn 1Dhl2 1Dhlm
1Dhlu 1Dhnm 1D2xm0 1D2xnu 1Dhrg 1Dhsr 1Dht3 1Dhqw 1Dhuu 1Daum 1Dav0 1Dhzc 2Di0u 1D2y88 1Di4j 1Di54
1Di5j 1Di5v 1D2yhk 1Di67 1Di6e 1Ditv 1Di76 1Dayp 1Di8w 1Di9a 1Dibk 1Dia5 1D2z1g 1Dif7 1D2z1i 1Dige
1Digb 1Digs 1Dijl 1Dijm 1Db3j 1Dikd 1Dilk 1Dim5 1Dind 1Db4y 1D2zr7 1Db5o 1Dipc 1Dipf 1Dipi 1Diq2
1D3pg2 1Diri 2D3035 1Dpoh 2Disi 1Db7r 1D335k 1D3cgq 1Diua 1Diuj 1Db8j 1Divu 1Dix9 1Dixj 1Diyh
1Dj29 1Dbay 1Dba4 1Dj2s 1D30t0 1Dj47 1Dj7s 1Dj7w 1Dj7y 1Dj7w 1Dj96 1Dj9q 1Djaq 1Djac 1Djan 1Djby
1Djci 1Djcm 1Djdc 1Djdn 1Djfh 1Djht 1Djis 1Djm8 1D31n0 1Djlp 1Djjw 1Djmw 1Djnn 1Djqc 1D31td 1Djs2
1Djph 1Djop 1Dbhq 1Dju1 1Djum 1Djvh 1Djuf 1Dbjg 1Dk0f 1Dk18 1D32mi 1Dk4j 1Dkc8 1Dk7d 1Dbo9 1Dk9d
1Dbns 1Dbms 1Dg42 1Dg45 1Dkcg 1Dk9o 1Dpf1 1Ddeh 1Dkd3 1Dkd7 1Dkdd 1Dkf2 1Dker 1D33cz 1Dbpl 1Dkje
1Dkg5 1Dklu 1Dkn9 1D33hp 1Dkni 1Dkkf 1Dkr8 1Dbrx 1Dksi 1Dkv7 1Dkx6 1Dl2g 1D33xf 1Dl3v 1Dbvc 1Dl5t
1D34br 1Dl78 1Dbwu 1Dl82 1Dl9b 1Dla2 1Dla3 1D34p9 1D2yvf 1D34sa 1Dle6 1D354s 1Dlhb 1Dlhp 1Dlev
1Dljq 1Dlku 1Dlmf 1Dlkx 1Dlm1 1Dlmg 1Dlmt 1D357i 1Dlkk 1Dlrj 1Dlta 1Dc37 1Dlvv 1Dlvr 1D35jl 1Dlq1
1Dm0e 1D35ni 1D35ou 1Dm2u 1Dm61 1Dm5a 1Dm57 1Dc5y 1Dm6i 1Dm7x 1Dm7r 1Dm99 1D2u5h 1Dmdh 1D368z
1Dmfw 1D36i3 1Dmjs 1Dmk5 1Dmkw 1D36yw 1Dmm8 1Dmmt 1D3779 1D37dg 1Dmt6 1Dmtn 1Dcdo 1Dmud 2Dce0
1Dmyv 1Dmzg 1Dn01 1Dn0l 1Dn2i 1Dcgr 1Dn50 1D386u 1Dn5q 1D389e 1Dn74 1D2zrz 1Dnbk 1D38v5 1D38vs
1D38zo 1Dcn0 1Dcnc 1Dnhw 1D394j 1D394i 1D395l 1D396b 1Dnj2 2Dnj3 1Dnka 1Dcop 1Dnm3 1Dcp2 1Dcra
1D39r1 1Dnri 1Dnt8 1Dnv0 1Dctf 1D3a5i 1Dnyu 1D3a8q 1D3a9x 1Do0f 1Do2z 1Dcvj 1Do5c 1Do5m 1Do5r
1D3at8 2D3b1j 1Doa6 1Dd1e 1D3b8r 1Dog6 1Dog9 1Dd2f 1D3beo 1Donm 1Dd5s 1Doo8 1Doo3 1Doow 1D3c06
1Dorn 1Dd8h 1Douf 1Dow2 1Doxx 1Dd9w 1D3ciw 1D3cjr 1Ddax 1D3cnt 1Dp6i 1D3cqm 1Dp79 1Dpa2 1Dpad
1D3d22 1D3d43 1Dpcw 1D3d7s 1Dpdc 1D33a7 1Dded 1Dpf6 1Dphf 1Ddfv 1Dpj2 1Dhx1 1D3dlz 1D3dmd 1D33bn
1D33bw 1Dpoh 1Dpok 1Dsda 1Ddij 1Dpsh 1Dpsb 1Dpst 1Dgc3 1Dptd 1Dptf 1Dptp 1Dpuu 1D3ebg 1Dput 1Dpwd
1Dpyb 1Dq0d 1Dpwj 1Dq0t 1Dq1z 1Dq53 1Dpxv 1Dq16 1Dq18 1Dq1o 1D3eie 1D3eqz 1D3emt 1Ddnv 1Dq9d 1Dq9f
1Dqae 1D3g0a 1Dqck 1D3f3g 1Ddp9 1Ddpd 1D3f75 1D3ff6 1Ddpn 1Dqj4 1Dqjg 1Dqjr 1Dqjt 1Dqll 1Dqko
1Dqoe 1Dqn6 1Dqrd 1Dqp4 1Dqqz 1Dqrq 1Ddsn 1Dqu9 1Dqv5 1Ddtl 1Dqxs 1Dqxv 1D3giv 1Dr13 1Dr1a 1Ddv9
1Dr22 1Daez 1D3gz2 1D3h46 1Ddz2 1Ddzb 1Drds 1Drfx 1Drka 1Drpx 1D3hrc 1Drsb 1Drsx 1Drvf 1Drxz
1D3i9b 1D2upw 1Ds0b 1Drzw 1Ds1c 1D2uvy 1Ds7o 1Dsag 1D3jki 1D3jl9 1Dsk4 1Dsmp 1Dsnl 1D3ju6 1Dsnv
1Dsvs 1Dt07 1Dt08 1Dsxo 1Dt89 1Dt91 1D3ksa 1Dtjf 1Dej9 1Dtkn 1D3l2v 1Deli 1Dts3 1Diia 1Dtur 1D3ltx
1D3lzu 1Depa 1Depi 1Du00 1D3mdm 1Der6 1D3mhi 2Du17 1Du21 1D3mpi 1Du76 1Deur 1Du95 1Ducn 1Dude
1Duf2 1Dez2 1D3nsg 1Dumq 1Duv4 1Dv0d 1Df66 1Df71 1Dv3b 1D3owe 1Df7c 1D3oxx 1D3p5a 1D3p8x 1Dvcr
1Df9y 1Dveh 1Dvem 1Dvet 1Dvf3 1Dvfa 1Dvgb 1D3pxc jp42N"

/-- Letter `C` with the combining class of a character as its operand; all others have class zero.
-/
def classTable : Table := .ofText
  "lcN lC6e 1C6g 4C64 1C6g 1C60 5C64 2C5m 4C64 2C5m bC64 5C1 4C64 8C6e 1C6o 1C6e 3C64 3C6e 2C64 1N
3C6e 4C64 1C6e 1C6g 2C64 1C6e 1C6h 2C6i 1C6h 2C6i 1C6h dC6e 7nN 5C6e 7dN 1C64 4C6e 1C64 3C6e 1C66
1C64 6C6e 6C64 2C6e 1C64 2C6e 1C66 1C6c 1C6e 1Ca 1Cb 1Cc 1Cd 1Ce 1Cf 1Cg 1Ch 1Ci 2Cj 1Ck 1Cl 1Cm
1N 1Cn 1N 1Co 1Cp 1N 1C6e 1C64 1N 1Ci 20N 8C6e 1Cu 1Cv 1Cw 1cN 1Cr 1Cs 1Ct 1Cu 1Cv 1Cw 1Cx 1Cy
2C6e 2C64 5C6e 1C64 2C6e 1C64 gN 1Cz 2tN 7C6e 2N 4C6e 1C64 1C6e 2N 2C6e 1N 1C64 2C6e 1C64 zN 1C10
uN 1C6e 1C64 2C6e 1C64 2C6e 3C64 1C6e 2C64 1C6e 1C64 3C6e 1C64 1C6e 1C64 1C6e 1C64 1C6e 1C64 2C6e
4gN 7C6e 1C64 1C6e 9N 1C64 oN 4C6e 1N 9C6e 1N 3C6e 1N 5C6e 17N 3C64 1oN 1C6e 3C64 4C6e 16N 5C6e
5C64 eC6e 1N 1C64 2C6e 1C64 2C6e 1C64 3C6e 3C64 1Cr 1Cs 1Ct 3C6e 1C64 2C6e 2C64 5C6e 1oN 1C7 gN
1C9 3N 1C6e 1C64 2C6e 2vN 1C7 gN 1C9 1cN 1C6e 1pN 1C7 gN 1C9 32N 1C7 gN 1C9 32N 1C7 gN 1C9 3jN 1C9
32N 1C7 gN 1C9 7N 1C2c 1C2j 2tN 1C7 gN 1C9 31N 2C9 gN 1C9 3gN 1C9 31N 2C2v 1C9 dN 4C2z 30N 2C3a
1C9 dN 4C3e 24N 2C64 rN 1C64 1N 1C64 1N 1C60 1jN 1C3l 1C3m 1N 1C3o 5N 4C3m 2N 1C3m 1N 2C6e 1C9 1N
2C6e 1qN 1C64 34N 1C7 1N 2C9 2aN 1C64 jzN 3C6e qcN 2C9 uN 1C9 4dN 1C9 aN 1C6e 5nN 1C6c 3zN 1C66
1C6e 1C64 63N 1C6e 1C64 1zN 1C9 kN 8C6e 2N 1C64 1cN 5C6e 6C64 2C6e 1C64 1N 2C64 2C6e 2C64 5C6e
1C64 4C6e 2tN 1C7 fN 1C9 12N 1C6e 1C64 7C6e 1iN 2C9 1mN 1C7 bN 2C9 1vN 1C7 48N 3C6e 1N 1C1 5C64
2C6e 4C64 1C6e 1N 7C1 4N 1C64 6N 1C6e 3N 2C6e 5iN 2C6e 1C64 7C6e 1C64 2C6e 1C6i 1C5y 1C64 1C5m
11C6e 1C6g 2C6c 1C64 1C62 1C6e 1C6h 1C64 1C6e 1C64 k0N 2C6e 2C1 4C6e 3C1 2C6e 4N 1C6e 3N 2C1 1C6e
1C64 1C6e 2C1 4C64 1C6e 2daN 3C6e 3xN 1C9 2oN wC6e feN 1C62 1C6c 1C6g 1C66 2C68 2xN 2C8 n9wN 1C6e
4N aC6e wN 2C6e 28N 2C6e 7oN 1C9 11N 1C9 47N 1C9 rN iC6e 1lN 3C64 11N 1C9 2nN 1C7 cN 1C9 6nN 1C6e
1N 2C6e 1C64 2N 2C6e 5N 2C6e 1N 1C6e 1gN 1C9 6uN 1C9 fn4N 1Cq ldN 7C6e 7C64 2C6e r1N 1C64 6aN 1C64
45N 5C6e 1aqN 1C64 1N 1C6e 14N 1C6e 1C1 1C64 4N 1C9 4lN 1C6e 1C64 fxN 4C6e arN 2C6e 49N 2C64 3C6e
1C64 1C6e 4C64 1dN 1C6e 1C64 1C6e 1C64 5cN 1C9 15N 1C9 eN 1C9 1lN 1C9 1C7 1xN 3C6e 1cN 2C9 1qN 1C7
24N 1C9 9N 1C7 2yN 1C9 1C7 4yN 1C7 1C9 28N 2C7 gN 1C9 oN 7C6e 3N 5C6e 5pN 1C9 3N 1C7 nN 1C6e 2rN
1C9 1C7 6zN 1C9 1C7 3iN 1C9 3aN 1C9 1C7 37N 1C9 7hN 1C9 1C7 76N 2C9 4N 1C7 4cN 1C9 2bN 1C9 iN 1C9
29N 1C9 bpN 1C9 76N 1C7 1N 2C9 29N 1C9 fa0N 5C1 1nN 7C6e xlN 2C6 f58N 1C1 43qN 2C60 3C1 3N 1C6a
5C60 8N 8C64 2N 5C6e 2C64 uN 4C6e 44N 3C6e 2pnN 7C6e 1N hC6e 2N 7C6e 1N 2C6e 1N 5C6e 79N 7C6e afN
1C6e 1pN 4C6e 15sN 7C64 31N 6C6e 1C7 l705N"

/-- Ranges of characters that a composition never yields. -/
def compositionExclusions : List (Nat × Nat) :=
  [(0x340, 0x341), (0x343, 0x344), (0x374, 0x374), (0x37E, 0x37E), (0x387, 0x387),
   (0x958, 0x95F), (0x9DC, 0x9DD), (0x9DF, 0x9DF), (0xA33, 0xA33), (0xA36, 0xA36),
   (0xA59, 0xA5B), (0xA5E, 0xA5E), (0xB5C, 0xB5D), (0xF43, 0xF43), (0xF4D, 0xF4D),
   (0xF52, 0xF52), (0xF57, 0xF57), (0xF5C, 0xF5C), (0xF69, 0xF69), (0xF73, 0xF73),
   (0xF75, 0xF76), (0xF78, 0xF78), (0xF81, 0xF81), (0xF93, 0xF93), (0xF9D, 0xF9D),
   (0xFA2, 0xFA2), (0xFA7, 0xFA7), (0xFAC, 0xFAC), (0xFB9, 0xFB9), (0x2ADC, 0x2ADC),
   (0xFB1D, 0xFB1F), (0xFB2A, 0xFB4E), (0x1D15E, 0x1D164), (0x1D1BB, 0x1D1C0)]

/-- The combining class of a character. -/
def combiningClass (c : Char) : Nat :=
  if c.toNat < 0x300 then 0
  else match classTable.find? c with
    | some run => if run.letter = 'C' then run.operands.headD 0 else 0
    | none => 0

/-- The characters that a character is taken apart into, if it is a composite. A syllable is taken
apart by arithmetic. -/
def canonicalParts? (c : Char) : Option (List Char) :=
  let n := c.toNat
  if n < 0xC0 then none
  else if 0xAC00 ≤ n ∧ n ≤ 0xD7A3 then
    let s := n - 0xAC00
    let lead := Char.ofNat (0x1100 + s / 588)
    let vowel := Char.ofNat (0x1161 + s % 588 / 28)
    if s % 28 = 0 then some [lead, vowel] else some [lead, vowel, Char.ofNat (0x11A7 + s % 28)]
  else
    match decompositionTable.find? c with
    | some run => if run.letter = 'D' then some (run.operands.map Char.ofNat) else none
    | none => none

/-- The full canonical decomposition of a character. -/
def decomposed : Nat → Char → List Char
  | 0, c => [c]
  | fuel + 1, c =>
      match canonicalParts? c with
      | some parts => parts.flatMap (decomposed fuel)
      | none => [c]

/-- Insert a mark before the marks of a greater class at the front of a reversed text. -/
def insertMark (c : Char) (ccc : Nat) : List (Char × Nat) → List (Char × Nat)
  | [] => [(c, ccc)]
  | (d, ccc') :: rest =>
      if ccc < ccc' then (d, ccc') :: insertMark c ccc rest else (c, ccc) :: (d, ccc') :: rest

/-- Characters with their classes, each run of marks sorted by class, in reverse. -/
def sortMarks (text : List Char) : List (Char × Nat) :=
  text.foldl (fun done c =>
    let ccc := combiningClass c
    if ccc = 0 then (c, 0) :: done else insertMark c ccc done) []

/-- The pairs that compose, sorted by first and then by second character, with their composites. -/
def compositions : Array (Nat × Nat × Nat) :=
  let pairs := decompositionTable.runs.toList.filterMap fun run =>
    match run.letter, run.operands with
    | 'D', [a, b] =>
        if compositionExclusions.any (fun r => r.1 ≤ run.first ∧ run.first ≤ r.2) then none
        else some (a, b, run.first)
    | _, _ => none
  (pairs.mergeSort fun x y => x.1 < y.1 ∨ (x.1 = y.1 ∧ x.2.1 ≤ y.2.1)).toArray

/-- Look a pair up among the compositions from `low` to before `high`. -/
def bisectPair (first second : Nat) : Nat → Nat → Nat → Option Nat
  | 0, _, _ => none
  | fuel + 1, low, high =>
      if low < high then
        let middle := (low + high) / 2
        match compositions[middle]? with
        | none => none
        | some (a, b, c) =>
            if first < a ∨ (first = a ∧ second < b) then bisectPair first second fuel low middle
            else if a < first ∨ (a = first ∧ b < second) then
              bisectPair first second fuel (middle + 1) high
            else some c
      else none

/-- Whether two characters may compose at all. The second one is a mark or a part of a syllable, and
a basic character that composes is a letter or one of three signs. -/
def mayCompose (first second : Char) : Bool :=
  0x300 ≤ second.toNat
    && (0x80 ≤ first.toNat || first.isAlpha || ['<', '=', '>'].contains first)

/-- The character that a starter and a following character compose to. -/
def composePair? (first second : Char) : Option Char :=
  let a := first.toNat
  let b := second.toNat
  if !mayCompose first second then none
  else if 0x1100 ≤ a ∧ a ≤ 0x1112 ∧ 0x1161 ≤ b ∧ b ≤ 0x1175 then
    some (Char.ofNat (0xAC00 + ((a - 0x1100) * 21 + (b - 0x1161)) * 28))
  else if 0xAC00 ≤ a ∧ a ≤ 0xD7A3 ∧ (a - 0xAC00) % 28 = 0 ∧ 0x11A8 ≤ b ∧ b ≤ 0x11C2 then
    some (Char.ofNat (a + (b - 0x11A7)))
  else (bisectPair a b 16 0 compositions.size).map Char.ofNat

/-- Composition under way: the text before the starter reversed, the starter, and the characters
kept after it reversed, with the class of the last of them. -/
structure Composition where
  done : List Char
  starter : Option Char
  kept : List Char
  lastClass : Option Nat

/-- Take in the next character: it joins the starter unless a kept character of the same or a
greater class, or a kept starter, stands between them. -/
def Composition.push (s : Composition) (c : Char) (ccc : Nat) : Composition :=
  let open? :=
    match s.lastClass with
    | none => true
    | some last => last != 0 && last < ccc
  match s.starter with
  | some starter =>
      match if open? then composePair? starter c else none with
      | some joined => { s with starter := some joined }
      | none =>
          if ccc = 0 then
            { done := s.kept ++ starter :: s.done, starter := some c, kept := [],
              lastClass := none }
          else { s with kept := c :: s.kept, lastClass := some ccc }
  | none =>
      if ccc = 0 then { s with starter := some c, lastClass := none }
      else { s with done := c :: s.done }

/-- The composed text. -/
def Composition.finish (s : Composition) : List Char :=
  match s.starter with
  | some starter => (s.kept ++ starter :: s.done).reverse
  | none => s.done.reverse

/-- The canonical composition of a text. -/
def composed (text : List Char) : List Char :=
  let marks := (sortMarks (text.flatMap (decomposed 8))).reverse
  let start : Composition := { done := [], starter := none, kept := [], lastClass := none }
  (marks.foldl (fun s (c, ccc) => s.push c ccc) start).finish

end GaleraProxy.Unicode
