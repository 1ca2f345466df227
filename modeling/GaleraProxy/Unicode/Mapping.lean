import GaleraProxy.Unicode.Table

/-!
# The mapping of domain names

Before a domain name is looked up each of its characters is kept, dropped, replaced or refused. The
deviation characters count as kept.
-/

namespace GaleraProxy.Unicode

/-- Letter `V` keeps a character, `I` drops it, `S` and `T` move it up or down by the operand, `M`
replaces it by the operands, and `X` refuses it. -/
def mappingTable : Table := .ofText
  "1tV qSw 11V wX 1T3k 7V 1Mw,lk 1V 1T21 2V 1I 1V 1Mw,lg 2V 2T3k 1Mw,ld 1Slj 2V 1Mw,mf 1T3s 1T23 1V
1M1d,6dg,1g 1M1d,6dg,1e 1M1f,6dg,1g 1V nSw 1V 7Sw xV 1S1 1V 1S1 1V 1S1 1V 1S1 1V 1S1 1V 1S1 1V 1S1
1V 1S1 1V 1S1 1V 1S1 1V 1S1 1V 1S1 1V 1S1 1V 1S1 1V 1S1 1V 1S1 1V 1S1 1V 1S1 1V 1S1 1V 1S1 1V 1S1
1V 1S1 1V 1S1 1V 1S1 1V 1M2x,lj 1V 2M2x,2y 1S1 1V 1S1 2V 1S1 1V 1S1 1V 1S1 1V 2M30,53 1S1 1V 1S1
1V 1S1 1V 1S1 1V 1Mjg,32 1S1 1V 1S1 1V 1S1 1V 1S1 1V 1S1 1V 1S1 1V 1S1 1V 1S1 1V 1S1 1V 1S1 1V 1S1
1V 1S1 1V 1S1 1V 1S1 1V 1S1 1V 1S1 1V 1S1 1V 1S1 1V 1S1 1V 1S1 1V 1S1 1V 1S1 1V 1S1 1V 1T3d 1S1 1V
1S1 1V 1S1 1V 1T7g 1V 1S5u 1S1 1V 1S1 1V 1S5q 1S1 1V 2S5p 1S1 2V 1S27 1S5m 1S5n 1S1 1V 1S5p 1S5r
1V 1S5v 1S5t 1S1 3V 1S5v 1S5x 1V 1S5y 1S1 1V 1S1 1V 1S1 1V 1S62 1S1 1V 1S62 2V 1S1 1V 1S62 1S1 1V
2S61 1S1 1V 1S1 1V 1S63 1S1 3V 1S1 7V 3M2s,am 3M30,2y 3M32,2y 1S1 1V 1S1 1V 1S1 1V 1S1 1V 1S1 1V
1S1 1V 1S1 1V 1S1 2V 1S1 1V 1S1 1V 1S1 1V 1S1 1V 1S1 1V 1S1 1V 1S1 1V 1S1 1V 1S1 2V 3M2s,3e 1S1 1V
1T2p 1T1k 1S1 1V 1S1 1V 1S1 1V 1S1 1V 1S1 1V 1S1 1V 1S1 1V 1S1 1V 1S1 1V 1S1 1V 1S1 1V 1S1 1V 1S1
1V 1S1 1V 1S1 1V 1S1 1V 1S1 1V 1S1 1V 1S1 1V 1S1 1V 1T3m 1V 1S1 1V 1S1 1V 1S1 1V 1S1 1V 1S1 1V 1S1
1V 1S1 1V 1S1 1V 1S1 7V 1S8bv 1S1 1V 1T4j 1S8bs 2V 1S1 1V 1T5f 1S1x 1S1z 1S1 1V 1S1 1V 1S1 1V 1S1
1V 1S1 2pV 1Tg8 1T23 1Tg8 1Tg1 1T1n 1T1m 1T1h 1Tg0 1Tfz vV 1Mw,li 1Mw,lj 1Mw,lm 1Mw,mg 1Mw,lf
1Mw,ln 2V 1T3h 1Thh 1Thb 1Th7 1T27 2jV 2T1s 1V 1T1c 1Mlk,ld 1S38 9V 1I wV 1S1 1V 1S1 1V 1T57 1V
1S1 1V 2X 1Mw,qh 3V 1Tn7 1S38 4X 1Mw,ld 1Mw,lk,ld 1S12 1Tk0 3S11 1X 1S1s 1X 2S1r 1V hSw 1X 9Sw zV
1S8 1Tu 1Tp 1Td 1T6 1T9 1Tf 1Tm 1V 1S1 1V 1S1 1V 1S1 1V 1S1 1V 1S1 1V 1S1 1V 1S1 1V 1S1 1V 1S1 1V
1S1 1V 1S1 1V 1S1 1V 1T1i 1T1c 1T1b 1V 1T1o 1T1s 1V 1S1 1V 1T1i 1S1 2V 3T3m gS28 wSw 1cV 1S1 1V
1S1 1V 1S1 1V 1S1 1V 1S1 1V 1S1 1V 1S1 1V 1S1 1V 1S1 1V 1S1 1V 1S1 1V 1S1 1V 1S1 1V 1S1 1V 1S1 1V
1S1 1V 1S1 9V 1S1 1V 1S1 1V 1S1 1V 1S1 1V 1S1 1V 1S1 1V 1S1 1V 1S1 1V 1S1 1V 1S1 1V 1S1 1V 1S1 1V
1S1 1V 1S1 1V 1S1 1V 1S1 1V 1S1 1V 1S1 1V 1S1 1V 1S1 1V 1S1 1V 1S1 1V 1S1 1V 1S1 1V 1S1 1V 1S1 1V
1S1 1V 1Sf 1S1 1V 1S1 1V 1S1 1V 1S1 1V 1S1 1V 1S1 1V 1S1 2V 1S1 1V 1S1 1V 1S1 1V 1S1 1V 1S1 1V 1S1
1V 1S1 1V 1S1 1V 1S1 1V 1S1 1V 1S1 1V 1S1 1V 1S1 1V 1S1 1V 1S1 1V 1S1 1V 1S1 1V 1S1 1V 1S1 1V 1S1
1V 1S1 1V 1S1 1V 1S1 1V 1S1 1V 1S1 1V 1S1 1V 1S1 1V 1S1 1V 1S1 1V 1S1 1V 1S1 1V 1S1 1V 1S1 1V 1S1
1V 1S1 1V 1S1 1V 1S1 1V 1S1 1V 1S1 1V 1S1 1V 1S1 1V 1S1 1V 1S1 1V 1S1 1V 1S1 1V 1S1 1V 1S1 1V 1S1
1V 1X 12S1c 2X 1aV 1M12d,136 3V 2X 3V 1X 1jV 8X rV 4X 6V hX mV 1X 2gV 1M17r,19w 1M18o,19w
1M1c7,19w 1M18q,19w 2sV 1X 1cV 2X 1nV 2X 2tV eX 1nV 2X 1dV 2X fV 1X sV 2X 1V 1X bV 5X wV 7X 23V 1X
39V 1M1sl,1to 1M1sm,1to 1M1sn,1to 1M1ss,1to 1M1sx,1to 1M1sy,1to 1M1t7,1to 1M1tb,1to 10V 1X 8V 2X
2V 2X mV 1X 7V 1X 1V 3X 4V 2X 9V 2X 2V 2X 4V 8X 1V 4X 1M1wh,1x8 1M1wi,1x8 1X 1M1wv,1x8 4V 2X pV 2X
3V 1X 6V 4X 2V 2X mV 1X 7V 1X 1V 1M20i,20s 1X 1V 1M20o,20s 1X 2V 2X 1V 1X 5V 4X 2V 2X 3V 3X 1V 7X
1M1zq,20s 1M1zr,20s 1M1zw,20s 1V 1X 1M20b,20s 7X hV aX 3V 1X 9V 1X 3V 1X mV 1X 7V 1X 2V 1X 5V 2X
aV 1X 3V 1X 3V 2X 1V fX 4V 2X cV 7X 7V 1X 3V 1X 8V 2X 2V 2X mV 1X 7V 1X 2V 1X 5V 2X 9V 2X 2V 2X 3V
7X 3V 4X 1M275,27w 1M276,27w 1X 5V 2X iV aX 2V 1X 6V 3X 3V 1X 4V 3X 2V 1X 1V 1X 2V 3X 2V 3X 3V 3X
cV 4X 5V 3X 3V 1X 4V 2X 1V 6X 1V eX lV 5X dV 1X 3V 1X nV 1X gV 2X 9V 1X 3V 1X 4V 7X 2V 1X 3V 1X 2V
2X 4V 2X aV 7X mV 1X 3V 1X nV 1X aV 1X 5V 2X 9V 1X 3V 1X 4V 7X 2V 5X 3V 1X 4V 2X aV 1X 3V cX dV 1X
3V 1X 1fV 1X 3V 1X 6V 4X gV 2X qV 1X 3V 1X iV 3X oV 1X 9V 1X 1V 2X 7V 3X 1V 4X 6V 1X 1V 1X 8V 6X
aV 2X 3V cX 1eV 1M2tp,2sy 7V 4X tV 11X 2V 1X 1V 1X 5V 1X oV 1X 1V 1X cV 1M2x9,2wi aV 2X 5V 1X 1V
1X 7V 1X aV 2X 1M2wb,2vt 1M2wb,2w1 2V wX cV 1T1 1iV 1M30i,33r 4V 1X 4V 1M30s,33r 4V 1M30x,33r 4V
1M312,33r 4V 1M317,33r cV 1M30g,33p 3V 4X 2V 1M31t,31u 1V 1M31t,31w 1M33m,328 1M33m,31t,328
1M33n,328 1M33n,31t,328 7V 1M31t,328 hV 1M32q,33r 4V 1X 4V 1M330,33r 4V 1M335,33r 4V 1M33a,33r 4V
1M33f,33r cV 1M32o,33p 3V 1X fV 1X dV 11X 4gV 12S5ls 1X 1S5ls 5X 1S5ls 2X 18V 1Tw 2qV 2I 6gV 1X 4V
2X 7V 1X 1V 1X 4V 2X 15V 1X 4V 2X xV 1X 4V 2X 7V 1X 1V 1X 4V 2X fV 1X 1lV 1X 4V 2X 1vV 2X wV 3X qV
6X 2eV 2X 6T8 2X hsV 1X sV 3X 2hV 7X mV 9X oV 9X kV cX dV 1X 3V 1X 2V cX 1gV 2I 14V 2X aV 6X aV 6X
bV 5I aV 6X 2hV 7X 17V 5X 1yV aX vV 1X cV 4X cV 4X 1V 3X 16V 2X 5V bX 18V 4X qV 6X bV 3X 1qV 2X
1tV 1X tV 2X bV 6X aV 6X eV 2X 1aV 2X cV kX 25V 1X 4mV 8X 1oV 3X fV 3X 1fV 1T4su 1T4st 1T4sk 2T4si
1T4sj 1T4sc 1T4ro 1Sr7n 1S1 1V 5X 17T2bk 2X 3T2bk 8V 8X 17V 5X 18V 1T5or 1T5l3 1T5os 1V 2T5os
1T5ed 8T5os 1V 1T5ot 1T5cq 1T5ou 1T5ot 2T5os 1T5or 1T5pe 2T5bo 1T1w 1T5ph 2T5pg 1T5bl 2T5bk 1T5pi
1V 1T5pg 1T5pf 1T5ja 1T5pf 1T5bz 2T1q 1T5pi 2T5pf 1T1o 1T5bf 1T5ph 1T1j 3T52j 2T522 1T5q1 1T5pt
2T5pr 2T52s 1T52f 2T52b dV 1T4zf yV 1T5e1 1T5rt 1T5e0 1T5ny 1T5dv 1T5ru 1T5du 1T5dt 1T5dq 3T5do
1T18 1T5cb 1T5do 1T11 1T5cc 1T5dn 1T5dp 4T5do 1T5dm 2T5dd 1T5je 2T5d9 1T4c 2T5da 1T5s1 3T5d8 1T553
1sV 1S1 1V 1S1 1V 1S1 1V 1S1 1V 1S1 1V 1S1 1V 1S1 1V 1S1 1V 1S1 1V 1S1 1V 1S1 1V 1S1 1V 1S1 1V 1S1
1V 1S1 1V 1S1 1V 1S1 1V 1S1 1V 1S1 1V 1S1 1V 1S1 1V 1S1 1V 1S1 1V 1S1 1V 1S1 1V 1S1 1V 1S1 1V 1S1
1V 1S1 1V 1S1 1V 1S1 1V 1S1 1V 1S1 1V 1S1 1V 1S1 1V 1S1 1V 1S1 1V 1S1 1V 1S1 1V 1S1 1V 1S1 1V 1S1
1V 1S1 1V 1S1 1V 1S1 1V 1S1 1V 1S1 1V 1S1 1V 1S1 1V 1S1 1V 1S1 1V 1S1 1V 1S1 1V 1S1 1V 1S1 1V 1S1
1V 1S1 1V 1S1 1V 1S1 1V 1S1 1V 1S1 1V 1S1 1V 1S1 1V 1S1 1V 1S1 1V 1S1 1V 1S1 1V 1S1 1V 1S1 1V 1S1
1V 1S1 1V 1S1 1V 1S1 1V 1S1 1V 1S1 5V 1M2p,ji 1T1m 2V 1T5vj 1V 1S1 1V 1S1 1V 1S1 1V 1S1 1V 1S1 1V
1S1 1V 1S1 1V 1S1 1V 1S1 1V 1S1 1V 1S1 1V 1S1 1V 1S1 1V 1S1 1V 1S1 1V 1S1 1V 1S1 1V 1S1 1V 1S1 1V
1S1 1V 1S1 1V 1S1 1V 1S1 1V 1S1 1V 1S1 1V 1S1 1V 1S1 1V 1S1 1V 1S1 1V 1S1 1V 1S1 1V 1S1 1V 1S1 1V
1S1 1V 1S1 1V 1S1 1V 1S1 1V 1S1 1V 1S1 1V 1S1 1V 1S1 1V 1S1 1V 1S1 1V 1S1 1V 1S1 1V 1S1 1V 1S1 1V
1S1 9V 8T8 6V 2X 6T8 2X 8V 8T8 8V 8T8 6V 2X 6T8 2X 8V 1X 1T8 1X 1T8 1X 1T8 1X 1T8 8V 8T8 1V 1T5hh
1V 1T5hi 1V 1T5hj 1V 1T5hk 1V 1T5gt 1V 1T5gu 1V 1T5gv 2X 1M64g,qh 1M64h,qh 1M64i,qh 1M64j,qh
1M64k,qh 1M64l,qh 1M64m,qh 1M64n,qh 1M64g,qh 1M64h,qh 1M64i,qh 1M64j,qh 1M64k,qh 1M64l,qh 1M64m,qh
1M64n,qh 1M65c,qh 1M65d,qh 1M65e,qh 1M65f,qh 1M65g,qh 1M65h,qh 1M65i,qh 1M65j,qh 1M65c,qh 1M65d,qh
1M65e,qh 1M65f,qh 1M65g,qh 1M65h,qh 1M65i,qh 1M65j,qh 1M674,qh 1M675,qh 1M676,qh 1M677,qh 1M678,qh
1M679,qh 1M67a,qh 1M67b,qh 1M674,qh 1M675,qh 1M676,qh 1M677,qh 1M678,qh 1M679,qh 1M67a,qh 1M67b,qh
2V 1M67k,qh 1Mq9,qh 1Mq4,qh 1X 1V 1M69i,qh 2T8 1T22 1T5jj 1Mq9,qh 1Mw,lv 1T5j9 1Mw,lv 1Mw,n6
1Mw,lk,n6 1M67o,qh 1Mqf,qh 1Mq6,qh 1X 1V 1M69y,qh 1T2e 1T5jw 1T2e 1T5jx 1Mqf,qh 1Mw,lv,lc
1Mw,lv,ld 1Mw,lv,n6 3V 1T5kz 2X 2V 2T8 1T2s 1T5kc 1X 1Mw,lw,lc 1Mw,lw,ld 1Mw,lw,n6 3V 1T5kj 4V 2T8
1T34 1T5jy 1T7 1Mw,lk,lc 1Mw,lk,ld 1T68f 2X 1M67w,qh 1Mqx,qh 1Mr2,qh 1X 1V 1M6ba,qh 1T3k 1T5kd
1T3i 1T5kd 1Mqx,qh 1Mw,ld 1Mw,lw 1X 1T6ao 1T6ap 1T6aq 1T6ar 1T6as 1T6at 1T6au 1T6av 1T6aw 1T6ax
1T6ay 1I 2V 2X 1V 1T1 5V 1Mw,mr cV 3X 1V 7X 1T6bz 3V 1M6cy,6cy 1M6cy,6cy,6cy 1V 1M6d1,6d1
1M6d1,6d1,6d1 4V 1Mx,x 1V 1Mw,lh 8V 1M1r,1r 1M1r,x 1Mx,1r dV 1M6cy,6cy,6cy,6cy 7V 1T6db 5I 5X 6I
1T6dc 1T6bs 2X 6T6dc 1T6dr 1Sbb 1T6db 2T6dx 1T6c1 aT6ds 1T6e7 1Sav 1T6dr 2T6ed 1X 1T6cv 1T6cs
1T6cj 1T6cb 1T5yz 1T6ct 4T6cr 1T6cq 2T6co 3X 8V 1M36,37 pV eX xV fX 1M2p,1b,2r 1M2p,1b,37 1T6fz
1M4w,2r 1V 1M2r,1b,33 1M2r,1b,39 1T624 1V 1M4w,2u 2T6g3 1T6g4 1T6g5 1T6g6 1T6aw 1T6g7 1T6g8 1T6g6
1T6g7 1V 1T6g7 1M32,33 2V 3T6g9 1T6ga 1T6gb 2V 1M37,31 1M38,2t,30 1M38,31 1V 1T6ga 1V 1T5st 1V
1T6ge 1V 1T6gv 1T6di 2T6h6 1V 1T6h6 2T6h7 1Ss 1T6h2 1T6h1 4T5et 1T6hc 1V 1M2u,2p,3c 1T5to 1T5u2
1T5u3 1T5tr 1S5t 4V 1T6ht 2T6hu 2T6hr 6V 1M1d,6dg,1j 1M1d,6dg,1l 1M1d,6dg,1d,1c 1M1d,6dg,1f
1M1e,6dg,1f 1M1d,6dg,1h 1M1e,6dg,1h 1M1f,6dg,1h 1M1g,6dg,1h 1M1d,6dg,1i 1M1h,6dg,1i 1M1d,6dg,1k
1M1f,6dg,1k 1M1h,6dg,1k 1M1j,6dg,1k 1M1d,6dg 1T6if 1M2x,2x 1M2x,2x,2x 1M2x,3a 1T6i6 1M3a,2x
1M3a,2x,2x 1M3a,2x,2x,2x 1M2x,3c 1T6i9 1M3c,2x 1M3c,2x,2x 1T6io 2T6iy 1T6iq 1T6iv 1M2x,2x
1M2x,2x,2x 1M2x,3a 1T6im 1M3a,2x 1M3a,2x,2x 1M3a,2x,2x,2x 1M2x,3c 1T6ip 1M3c,2x 1M3c,2x,2x 1T6j4
2T6je 1T6j6 3V 1S1 5V 1M1c,6dg,1f 2V 4X 4cV 1M6qz,6qz 1M6qz,6qz,6qz 1V 1M6r2,6r2 1M6r2,6r2,6r2 6wV
2S2jj 73V mX bV lX 9T75b 1M1d,1c 1M1d,1d 1M1d,1e 1M1d,1f 1M1d,1g 1M1d,1h 1M1d,1i 1M1d,1j 1M1d,1k
1M1d,1l 1M1e,1c 1M14,1d,15 1M14,1e,15 1M14,1f,15 1M14,1g,15 1M14,1h,15 1M14,1i,15 1M14,1j,15
1M14,1k,15 1M14,1l,15 1M14,1d,1c,15 1M14,1d,1d,15 1M14,1d,1e,15 1M14,1d,1f,15 1M14,1d,1g,15
1M14,1d,1h,15 1M14,1d,1i,15 1M14,1d,1j,15 1M14,1d,1k,15 1M14,1d,1l,15 1M14,1e,1c,15 kX 1M14,2p,15
1M14,2q,15 1M14,2r,15 1M14,2s,15 1M14,2t,15 1M14,2u,15 1M14,2v,15 1M14,2w,15 1M14,2x,15 1M14,2y,15
1M14,2z,15 1M14,30,15 1M14,31,15 1M14,32,15 1M14,33,15 1M14,34,15 1M14,35,15 1M14,36,15 1M14,37,15
1M14,38,15 1M14,39,15 1M14,3a,15 1M14,3b,15 1M14,3c,15 1M14,3d,15 1M14,3e,15 qT76d qT773 1T796
10hV 1M6qz,6qz,6qz,6qz 2vV 1M1m,1m,1p 1M1p,1p 1M1p,1p,1p 2tV 1M8gt,mw 47V 2X 3uV 1cS1c 1cV 1S1 1V
1T8af 1T2xy 1T89z 2V 1S1 1V 1S1 1V 1S1 1V 1T8bg 1T8al 1T8bj 1T8bi 1V 1S1 2V 1S1 6V 1T8pe 1T8p3
2T8cf 1S1 1V 1S1 1V 1S1 1V 1S1 1V 1S1 1V 1S1 1V 1S1 1V 1S1 1V 1S1 1V 1S1 1V 1S1 1V 1S1 1V 1S1 1V
1S1 1V 1S1 1V 1S1 1V 1S1 1V 1S1 1V 1S1 1V 1S1 1V 1S1 1V 1S1 1V 1S1 1V 1S1 1V 1S1 1V 1S1 1V 1S1 1V
1S1 1V 1S1 1V 1S1 1V 1S1 1V 1S1 1V 1S1 1V 1S1 1V 1S1 1V 1S1 1V 1S1 1V 1S1 1V 1S1 1V 1S1 1V 1S1 1V
1S1 1V 1S1 1V 1S1 1V 1S1 1V 1S1 1V 1S1 1V 1S1 1V 1S1 1V 1S1 8V 1S1 1V 1S1 4V 1S1 1V 5X 19V 1X 1V
5X 1V 2X 1kV 7X 1Te 1V eX oV 9X 7V 1X 7V 1X 7V 1X 7V 1X 7V 1X 7V 1X 7V 1X 7V 1X 3iV yX qV 1X 4V
1Sc32 2bV 1Sm98 cX 1S64g 1S65j 1S65w 1S664 1S66t 1S680 1S686 1S68p 1S69e 1S6ra 1S6sb 1S6sg 1S6t2
1S6tl 1S6u5 1S6vl 1S6w5 1S6wf 1S70p 1S73a 1S741 1S745 1S74y 1S756 1S75w 1S768 1S76w 1S78b 1S78s
1S79i 1S7uh 1S7wg 1S897 1S89t 1S8a0 1S8aa 1S8ar 1S8cu 1S8q2 1S8rd 1S8uo 1S8va 1S8vs 1S8wd 1S8xu
1S8xw 1S97x 1S986 1S98h 1S98t 1S9c0 1S9c7 1S9cb 1S9fj 1S9fs 1S9g4 1S9gb 1S9hz 1S9if 1S9iw 1S9l3
1Sa17 1Sa2g 1Sa30 1Sanj 1Sann 1Sapx 1Saqc 1Saqo 1Sar8 1Sasa 1Sase 1Sazs 1Sb0f 1Sb1a 1Sbth 1Sbva
1Sbvw 1Sbxh 1Sby4 1Sbyc 1Sbyi 1Sbzx 1Sc01 1Sc0w 1Scuu 1Sd78 1Sd7j 1Sd7n 1Sd7q 1Sd7x 1Sd8e 1Sd8f
1Sdan 1Sdgm 1Sdgq 1Sdq4 1Sdqd 1Sdrq 1Sdrw 1Sds4 1Sdsb 1Sdut 1Sduz 1Se1a 1Se1g 1Se2s 1Se38 1Se4i
1Seb2 1Seb8 1Sebo 1Sekq 1Seo7 1Seoc 1Setd 1Sevr 1Sex0 1Sf7h 1Sfb5 1Sfr2 1Sfrs 1Sftc 1Sfuq 1Sfwl
1Sfwv 1Sfx0 1Sfxw 1Sfzz 1Sg08 1Sg9t 1Sg9z 1Sga7 1Sgaf 1Sgau 1Sgb8 1Sgbb 1Sgdh 1Sgdk 1Sgdp 1Sh4x
1Sh5q 1Shiq 1Shj1 1Shjn 1Shrh 1Shrt 1Shtr 1Shv0 1Siaq 1Sib4 1Sibi 1Sicg 1Sidg 1Siiy 1Sij9 1Sil3
1Siry 1Siss 1Siyk 1Siz4 1Siz8 1Sj5b 1Sjae 1Sjdu 1Sjdz 1Sje3 1Sk40 1Sk48 1Sk8j 1Skcs 1Skcu 1Ske4
1Skh0 1Skhc 1Skhf 1Skhl 1Skka 1Skl7 1Sklc 1Sklp 1Skqb 1Skrp 1Skrs 1Skwu 1Skww 1Skxe 1Sl4d 1Sl5o
1Sl5u 1Sl7r 1Sl80 1Sl82 1Sl8b 1Sl94 1Slk2 1Slv5 1Slve 1Slwf 1Slx0 1Slx7 1Slxg 1Slxj 1Slym 1Slyp
1Slz5 1Slz9 1Slzl 1Sm0b 1Sm0p 1Sm0w 1Sm2i 1Sm2w 1Sm2z 16X 1T9gg 1V 1T9g4 1fV 1T10 1V 1S6x5 2S6x7
5V 1X 2eV 2X 2V 1Mw,9ll 1Mw,9lm 2V 1M9l4,9l6 2nV 1M9mb,9mw 5X 17V 1X 2T6cx 1T689 1T6cy 2T689 3T6d0
6T68a 1T6cm 3T6d7 1T6cj aT6d8 lT6b2 1I 2T6dt 2T68w 1T68t 1T68s 1T68o 1T68l 1T68k 1T6du 1T68i 1T68h
2T6dw 1T6dv 2T6du 1T6dr 1T6dq 5T6dp 1T6dn 1T6dk 1T6db 1T6d5 1T6d1 2T68h 3T6ct 2T6bn 1T6bl 2T6bd
1T6bc 1T6b3 1T6b1 1X 2V 1S5m6 1S5q1 1S5md 1S7d2 1S5mc 1S5na 1S5mb 1Sdcp 1S5of 1S5mm 1S5lx 1S7t8
1S7f6 1S5qz 1yV aX gV 1M14,3cw,15 1M14,3cy,15 1M14,3cz,15 1M14,3d1,15 1M14,3d2,15 1M14,3d3,15
1M14,3d5,15 1M14,3d7,15 1M14,3d8,15 1M14,3da,15 1M14,3db,15 1M14,3dc,15 1M14,3dd,15 1M14,3de,15
1M14,xz4,15 1M14,yvs,15 1M14,zc4,15 1M14,108s,15 1M14,10p4,15 1M14,115g,15 1M14,1224,15
1M14,12ys,15 1M14,13f4,15 1M14,14bs,15 1M14,14s4,15 1M14,158g,15 1M14,15os,15 1M14,1654,15
1M14,13p8,15 1M14,1350,13ic,15 1M14,1350,16f8,15 1X 1M14,feo,15 1M14,fik,15 1M14,fex,15
1M14,h5n,15 1M14,fis,15 1M14,g31,15 1M14,fer,15 1M14,g2z,15 1M14,fh9,15 1M14,gg1,15 1M14,kco,15
1M14,m7f,15 1M14,ldg,15 1M14,kdk,15 1M14,ssx,15 1M14,h7j,15 1M14,k4l,15 1M14,kkq,15 1M14,kcp,15
1M14,ny6,15 1M14,glp,15 1M14,mm1,15 1M14,rs1,15 1M14,nz1,15 1M14,gc4,15 1M14,fkz,15 1M14,gos,15
1M14,i1y,15 1M14,nhf,15 1M14,flt,15 1M14,rt3,15 1M14,ggk,15 1M14,nzh,15 1M14,fm9,15 1M14,pnu,15
1M14,po3,15 1S6x7 1S8qf 1Sa4h 1Seh4 8V 1M34,38,2t 1M1e,1d 1M1e,1e 1M1e,1f 1M1e,1g 1M1e,1h 1M1e,1i
1M1e,1j 1M1e,1k 1M1e,1l 1M1f,1c 1M1f,1d 1M1f,1e 1M1f,1f 1M1f,1g 1M1f,1h 1T6lc 2T6lb 3T6la 1T6l9
2T6l8 5T6l7 1So0i 1Sox5 1Spdg 1Sqa3 1Sqqe 1Sr6p 1Ss3c 1Sszz 1Stga 1Sucx 1Sut8 1Sv9j 1Svpu 1Sw65
1M14c8,y5c 1M13p8,13dk 1St9u 1V 1S5fk 1S5jf 1S5fr 1S76g 1S5jk 1S63s 1S5fh 1S63o 1S5hx 1S6go 1Sada
1Sc80 1Sbe0 1Sae3 1Sitf 1S780 1Sa51 1Sal5 1Sad3 1Sdyj 1S6m1 1Scmc 1Shsb 1Sdza 1S6cc 1Se2n 1Sd5p
1S7o8 1Sij1 1S619 1S6he 1Sbih 1Sk11 1S5m8 1S647 1Sb7k 1S5eu 1S5fs 1S5et 1S8jj 1S6kr 1S6fm 1S831
1S81n 1Sdh3 1S5lg 1Shsp 1S6g5 1S7l8 1M1f,1i 1M1f,1j 1M1f,1k 1M1f,1l 1M1g,1c 1M1g,1d 1M1g,1e
1M1g,1f 1M1g,1g 1M1g,1h 1M1g,1i 1M1g,1j 1M1g,1k 1M1g,1l 1M1h,1c 1M1d,kco 1M1e,kco 1M1f,kco
1M1g,kco 1M1h,kco 1M1i,kco 1M1j,kco 1M1k,kco 1M1l,kco 1M1d,1c,kco 1M1d,1d,kco 1M1d,1e,kco 1M2w,2v
1M2t,36,2v 1M2t,3a 1M30,38,2s 1Tfi 1Tfh 1Tfg 1Tff 2Tfe 1Tfd 1Tfc 1Tfb 1Tfa 1Tf9 1Tf8 1Tf7 1Tf6
1Tf5 1Tf4 1Tf3 1Tf1 1Tf0 1Tez 6Tey 1Tew 1Teu 1Tes 1Teq 5Teo 1Ten 1Tem 6Tel 4Tek 1Mfl0,gp8
1M9lu,9n5,9oc,9mw 1M9lu,9nv,9n9,9lt 1M9lu,9o3,9ne,9lu 1M9lu,9oc,9nv 1M9lw,9mz,9o3,9m8
1M9lw,9o3,9mp 1M9ly,9m1,9o3 1M9m0,9mh,9m7,9oc,9mx 1M9m0,9oc,9m3,9oc 1M9m2,9o3,9mh 1M9m2,9oc,9nk
1M9m3,9lw,9nu 1M9m3,9nt,9mr,9mw 1M9m3,9nx,9nu,9oc 1M9m4,9nx,9o3 1M9m4,9o3,9ni 1M9m6,9m4
1M9m6,9mz,9oc 1M9m5,9np,9nu,9oc 1M9m6,9nv,9mo,9oc 1M9m5,9nx 1M9m5,9nx,9m8,9nt,9nk
1M9m5,9nx,9nl,9oc,9mw,9nv 1M9m5,9nx,9nz,9mr,9mw 1M9m8,9nt,9nk 1M9m8,9nt,9nk,9mw,9o3
1M9m7,9nv,9mk,9lw,9nx 1M9m7,9nx,9oc,9n1 1M9m9,9oc,9mh 1M9mb,9nv,9my 1M9mb,9oc,9nh
1M9md,9lw,9m7,9nv 1M9md,9o3,9mp,9oc,9nk 1M9mf,9nu,9o3,9m8 1M9mj,9o3,9mp 1M9mj,9o3,9mw
1M9mo,9oc,9mh 1M9mv,9mf 1M9mx,9nv 1M9mw,9o3 1M9my,9n2 1M9n2,9mr,9mw 1M9n3,9lw,9ms
1M9n5,9oc,9mj,9o3,9mw 1M9n5,9oc,9ms 1M9n4,9oc,9nw,9nv 1M9n8,9lu,9mh,9mw,9nv 1M9n8,9m7,9nv
1M9n8,9mb 1M9n7,9nv 1M9n9,9lt,9nt,9mr,9mx 1M9n9,9lv,9oc,9mw 1M9na,9mr,9mf,9lz,9nv 1M9n9,9nt,9o3
1M9nc,9m7,9mn,9oc,9nv 1M9ne,9ml 1M9ne,9mz,9n6 1M9nc,9nv,9ms 1M9ne,9o3,9mh 1M9ne,9oc,9mg
1M9nd,9oc,9mn 1M9nh,9lw,9o3,9mw 1M9ng,9nv,9mw 1M9nf,9o3 1M9nh,9o3,9mx 1M9nf,9oc,9nv 1M9nf,9oc,9o3
1M9ni,9lw,9m7,9nx 1M9ni,9lw,9nv 1M9ni,9mr,9n3 1M9ni,9nv,9m7 1M9ni,9o3,9mf,9nr,9o3
1M9nj,9m7,9nx,9o3 1M9nj,9nu 1M9nj,9nu,9n4,9oc,9nv 1M9nl,9m4 1M9nl,9m4,9mw,9o3 1M9nl,9oc,9mw,9nv
1M9no,9oc,9mx 1M9no,9oc,9nv 1M9nq,9lu,9o3 1M9nu,9mr,9mw,9nv 1M9nu,9nt 1M9nv,9n8,9oc
1M9nv,9oc,9na,9nv 1M9nw,9nk 1M9nw,9o3,9mw,9ma,9o3 1M9nz,9mr,9mw 1M1c,m9l 1M1d,m9l 1M1e,m9l
1M1f,m9l 1M1g,m9l 1M1h,m9l 1M1i,m9l 1M1j,m9l 1M1k,m9l 1M1l,m9l 1M1d,1c,m9l 1M1d,1d,m9l 1M1d,1e,m9l
1M1d,1f,m9l 1M1d,1g,m9l 1M1d,1h,m9l 1M1d,1i,m9l 1M1d,1j,m9l 1M1d,1k,m9l 1M1d,1l,m9l 1M1e,1c,m9l
1M1e,1d,m9l 1M1e,1e,m9l 1M1e,1f,m9l 1M1e,1g,m9l 1M2w,34,2p 1M2s,2p 1M2p,39 1M2q,2p,36 1M33,3a
1M34,2r 1M2s,31 1M2s,31,1e 1M2s,31,1f 1M2x,39 1Minn,jdc 1Mk6l,gp8 1Mhlz,l7n 1Mk5q,lh7
1Mkkq,irz,fmi,ny6 1M34,2p 1M32,2p 1Mqk,2p 1M31,2p 1M2z,2p 1M2z,2q 1M31,2q 1M2v,2q 1M2r,2p,30
1M2z,2r,2p,30 1M34,2u 1M32,2u 1Mqk,2u 1Mqk,2v 1M31,2v 1M2z,2v 1M2w,3e 1M2z,2w,3e 1M31,2w,3e
1M2v,2w,3e 1M38,2w,3e 1Mqk,30 1M31,30 1M2s,30 1M2z,30 1M2u,31 1M32,31 1Mqk,31 1M31,31 1M2r,31
1M2z,31 1M31,31,1e 1M2r,31,1e 1M31,1e 1M2z,31,1e 1M31,31,1f 1M2r,31,1f 1M31,1f 1M2z,31,1f
1M31,6qd,37 1M31,6qd,37,1e 1M34,2p 1M2z,34,2p 1M31,34,2p 1M2v,34,2p 1M36,2p,2s 1M36,2p,2s,6qd,37
1M36,2p,2s,6qd,37,1e 1M34,37 1M32,37 1Mqk,37 1M31,37 1M34,3a 1M32,3a 1Mqk,3a 1M31,3a 1M2z,3a
1M31,3a 1M34,3b 1M32,3b 1Mqk,3b 1M31,3b 1M2z,3b 1M31,3b 1M2z,qx 1M31,qx 1X 1M2q,35 1M2r,2r 1M2r,2s
1M2r,6qd,2z,2v 1X 1M2s,2q 1M2v,3d 1M2w,2p 1M2w,34 1M2x,32 1M2z,2z 1M2z,31 1M2z,38 1M30,31 1M30,32
1M30,33,2v 1M30,3c 1M31,2q 1M31,2x,30 1M31,33,30 1M34,2w 1X 1M34,34,31 1M34,36 1M37,36 1M37,3a
1M3b,2q 1M3a,6qd,31 1M2p,6qd,31 1M1d,k4l 1M1e,k4l 1M1f,k4l 1M1g,k4l 1M1h,k4l 1M1i,k4l 1M1j,k4l
1M1k,k4l 1M1l,k4l 1M1d,1c,k4l 1M1d,1d,k4l 1M1d,1e,k4l 1M1d,1f,k4l 1M1d,1g,k4l 1M1d,1h,k4l
1M1d,1i,k4l 1M1d,1j,k4l 1M1d,1k,k4l 1M1d,1l,k4l 1M1e,1c,k4l 1M1e,1d,k4l 1M1e,1e,k4l 1M1e,1f,k4l
1M1e,1g,k4l 1M1e,1h,k4l 1M1e,1i,k4l 1M1e,1j,k4l 1M1e,1k,k4l 1M1e,1l,k4l 1M1f,1c,k4l 1M1f,1d,k4l
1M2v,2p,30 m8dV 3X 1jV 9X 9oV kX 1S1 1V 1S1 1V 1S1 1V 1S1 1V 1S1 1V 1S1 1V 1S1 1V 1S1 1V 1S1 1V
1S1 1V 1S1 1V 1S1 1V 1S1 1V 1S1 1V 1S1 1V 1S1 1V 1S1 1V 1S1 1V 1S1 1V 1S1 1V 1S1 1V 1S1 1V 1S1 jV
1S1 1V 1S1 1V 1S1 1V 1S1 1V 1S1 1V 1S1 1V 1S1 1V 1S1 1V 1S1 1V 1S1 1V 1S1 1V 1S1 1V 1S1 1V 1S1 1V
1Tw2a 1Tw29 2iV 8X yV 1S1 1V 1S1 1V 1S1 1V 1S1 1V 1S1 1V 1S1 1V 1S1 3V 1S1 1V 1S1 1V 1S1 1V 1S1 1V
1S1 1V 1S1 1V 1S1 1V 1S1 1V 1S1 1V 1S1 1V 1S1 1V 1S1 1V 1S1 1V 1S1 1V 1S1 1V 1S1 1V 1S1 1V 1S1 1V
1S1 1V 1S1 1V 1S1 1V 1S1 1V 1S1 1V 1S1 1V 1S1 1V 1S1 1V 1S1 1V 1S1 1V 1S1 1V 1S1 1V 1S1 1V 1T1 8V
1S1 1V 1S1 1V 1Tr9g 1S1 1V 1S1 1V 1S1 1V 1S1 1V 1S1 4V 1S1 1V 1Twmg 2V 1S1 1V 1S1 3V 1S1 1V 1S1 1V
1S1 1V 1S1 1V 1S1 1V 1S1 1V 1S1 1V 1S1 1V 1S1 1V 1S1 1V 1Twn8 1Twnj 1Twnf 1Twn5 1Twn8 1V 1Twlu
1Twmi 1Twlx 1Sps 1S1 1V 1S1 1V 1S1 1V 1S1 1V 1S1 1V 1S1 1V 1S1 1V 1S1 1V 1T1c 1Twn7 1Traw 1S1 1V
1S1 1V 1Two7 1S1 1V 1S1 1V 1S1 1V 1S1 1V 1S1 1V 1S1 1V 1S1 1V 1S1 1V 1Twu9 kX 1Tx32 1Tx3j 1Tx3h
1Tx37 1S1 2V 1Twy9 1Twx2 1fV 3X aV 6X 1kV 8X 1yV 8X cV 6X 38V bX uV 3X 26V 1X bV 4X xV 1X 1jV 9X
eV 2X aV 2X 2vV oX sV aX 6V 2X 6V 2X 6V 9X 7V 1X 7V 1X 18V 1Ttx 1T12 1Txdf 1Td 9V 1Txcs 2V 4X
28Ttzk 1aV 2X aV 6X 8mcV cX nV 4X 1dV 6isX 1Tlh4 1Tsul 1Tkzc 1Tldn 1Trar 1Txqr 1Twm9 1Thnv 1Thnw
1Tvjs 1Tke1 1Twas 1Tvk4 1Ttuf 1Tpt1 1To0a 1Tmoh 1Tmdz 1Tm56 1Tkn8 1Ts9e 1Trne 1Tqwt 1Tqbd 1Tn2z
1Tkhb 1Tisp 1Txp5 1Twpz 1Ts2h 1Tqo3 1Tmpe 1Thz6 1Tus1 1Tr3r 1Tms6 1Tm2o 1Ttp8 1Tnke 1Tmbs 1Tuhq
1Tsuq 1Trls 1Tqi7 1Tkm6 1Txif 1Tx2v 1Twup 1Ttbg 1Ts4e 1Tqoy 1Tpqk 1Tnxv 1Tmr3 1Tmoq 1Tl6w 1Tjd2
1Tiiy 1Ti0w 1Tpf3 1Tp8d 1Tof1 1Tn79 1Tk6z 1Thxd 1Tlt7 1Tvoj 1Tugv 1Too4 1Tnuv 1Tqn8 1Tpdp 1Tlfq
1Tjf6 1Tvoy 1Tuzt 1Tsah 1Trjn 1Trb3 1Toio 1Tobd 1Tjk6 1Tww0 1Tnuw 1Tx2w 1Tx3d 1Tp4q 1Toex 1Tn6v
1Tjj8 1Tlp6 1Ttqk 1Tsbe 1Tlsv 1Txt1 1Tv3s 1Tua6 1Tqfu 1Tq2a 1Twuk 1Tpd5 1Txie 1Tud9 1Txui 1Trrw
1Tt81 1Tojs 1Twq0 1Tvta 1Tprg 1Tn51 1Tlvp 1Trzq 1Tkw1 1Tru2 1Ttpx 1Tnf3 1Ttlh 1Tq35 1Txqh 1Tx73
1Tx4g 1Tsmx 1Tolw 1Tnil 1Tluz 1Tkhb 1Twwa 1Twn2 1Tvm6 1Tuja 1Tt6m 1Tr5y 1Tpcr 1Tjq1 1Tisd 1Thyp
1Thx7 1Twz3 1Tszp 1Ts2d 1Tkyz 1Tumy 1Tu0v 1Ttxs 1Ttfb 1Trcf 1Tqx6 1Tqa3 1Tp8r 1Tof6 1Tnxk 1Tl0y
1Tn1n 1Tktz 1Tk7l 1Tx39 1Twze 1Twkh 1Tr13 1Tmam 1Tlx3 1Tul5 1Tucu 1Ttnt 1Ts1j 1Tors 1Tqia 1Txqc
1Tw4w 1Tv5v 1Tusx 1Tuc0 1Tqgr 1Tqbp 1To45 1Tnze 1Tkfx 1Tji4 1Tjfv 1Tja4 1Txm2 1Tpag 1Tkjn 1Tjk0
1Tu6w 1Txtg 1Txcx 1Tv66 1Tv3y 1Tt9h 1Tse5 1Tquq 1Tpz3 1Tn2e 1Tksn 1Thtj 1Tt31 1Tjo8 1Tx1a 1Tswd
1Tst2 1Trrd 1Trhr 1Tqf7 1Tq5w 1Tpk3 1Ton3 1Tj8y 1Tx9g 1Ttyc 1Tjmj 1Txih 1Tuyk 1Trn0 1Tl2l 1Tuh9
1Tu51 1Tssj 1Tqj8 1Tjme 1Tx4k 1Twr3 1Tv3u 1Tt71 1Tsyb 1Tsoq 1Trum 1Tqfy 1Tq2r 1To6l 1Tmc8 1Tmbr
1Tkkd 1Tjk8 1Twx8 1Trhu 1Twr4 1Tqvy 1Tqc7 1Tmwm 1Tjm6 1Tihn 1Ti1g 1Tswt 1Troq 1Tnpq 1Tp4c 1Tp20
1Torr 1Tqpm 1Tr4y 1Tlus 1Txtp 1Tngo 1Tx51 1Tx6h 1Tuor 1Ttv3 1Toq5 1Tvb3 1Trtz 1Tt3m 1Tl3g 1Tmgs
1Tjp8 1Tm7z 1Tuns 1Txcc 1Twgd 2V 1Tvxy 1V 1Tt5q 2V 1Tx87 1Tqng 1Tpxp 1Tpgc 1Tpff 1Tpf9 1Tpe4 1Tjie
1Torj 1To69 1V 1Tmxa 1V 1Tlyi 2V 1Tkx9 1Tkrt 3V 1Tj7f 1Tj73 1Tj5w 1Ti9l 1Tksw 1Tjnc 1Txoi 1Txfu
1Txd1 1Tx2i 1Tx1s 1Twys 1Twih 1Twfl 1Twcw 1Tvzt 1Tvwy 1Tv6f 1Tv66 1Tucp 1Tu6u 1Tu5t 1Tu32 1Ttf6
1Ttb4 1Tt6a 1Tssf 1Trta 1Tros 1Trhh 1Tr16 1Tqvy 1Tqi0 1Tpmi 1Tphq 1Tphg 1Tphi 1Tphb 1Tph6 1Tph0
2Tpfp 1Tpas 1Tp90 1Tp06 1Tokj 1Tojz 1Toig 1Toa0 1To5y 1Tnsf 1Tnok 1Tnol 1Tnbc 1Tmds 1Tma3 1Tm01
1Tlyi 1Tln5 1Tllp 1Tl2o 1Tkz3 1Tjnp 1Tjfu 1Tje7 1Tueu 1S1sw2 1Tnrp 2X 1Ty16 1Txbw 1Txe2 1Txrn
1Txf3 1Txdh 1Tx4f 1Tx31 1Twkb 1Twmc 1Twkh 1Twih 1Tw0y 1Tvyi 1Tvui 1Tvu3 1Tvmm 1Tvh5 1Tur4 1Tuqy
1Tumz 1Tul4 1Tucu 1Tu9l 1Tubk 1Tu7v 1Tu96 1Tu55 1Tu3c 1Tts9 1Ttpu 1Ttod 1Tth6 1Tt99 1Tt4r 1Tt4o
1Tt32 1Ts9o 1Ts7w 1Trx2 1Trlp 1Trm6 1Trjs 1Trct 1Tr3i 1Tpva 1Tqy1 1Tquo 1Tqra 1Tqi8 1Tqe4 1Tqco
1Tq6f 1Tq6e 1Tq1o 1Tq18 1Tq0k 1Tpy7 1Tpyi 1Tpnj 1Tpa3 1Tp2l 1Toxf 1Tor8 1Ton0 1Todv 1To8d 1Tnkx
1Tngl 1Tmrg 1Tmet 1Tmcx 1Tmci 1Tm4a 1Tm2q 1Tm40 1Tm2j 1Tm2n 1Tm35 1Tm12 1Tlyu 1Tlo9 1Tl8q 1Tl01
1Tkrv 1Tklr 1Tjt6 1Tjqc 1Tjn6 1Tjji 1Tjij 1Tji8 1Tjgx 1Tiwr 1Ti0i 1S1njv 1S1njo 1S1ptw 1T11rp
1T10vv 1T10uz 1S1vuc 1S1xx6 1S24n0 1Ti39 1Ti17 12X 1M2u,2u 1M2u,2x 1M2u,30 1M2u,2u,2x 1M2u,2u,30
2M37,38 cX 1M12s,12u 1M12s,12d 1M12s,12j 1M132,12u 1M12s,12l 5X 1M15l,14k 1V 1M16a,14n 1T1cfy
1T1cgh 2T1cgf 3T1cg9 1T1cfz 1T1cfy 1T1dku 1M161,14x 1M161,14y 1M161,14s,14x 1M161,14s,14y
1M15c,14n 1M15c,14o 1M15c,14s 1M15d,14s 1M15e,14s 1M15f,14s 1M15g,14s 1M15h,14s 1M15i,14s 1X
1M15k,14s 1M15l,14s 1M15m,14s 1M15n,14s 1M15o,14s 1X 1M15q,14s 1X 1M15s,14s 1M15t,14s 1X 1M15v,14s
1M15w,14s 1X 1M15y,14s 1M15z,14s 1M160,14s 1M161,14s 1M162,14s 1M15h,14p 1M15d,14v 1M15n,14v
1M15w,14v 1M15c,15o 1T1cdb 1T1cdc 1T1cd3 1T1cd4 1T1cd5 1T1cd6 1T1cd4 1T1cd5 1T1cd6 1T1cd7 1T1cd6
1T1cd7 1T1cd8 1T1cd9 1T1cdg 1T1cdh 1T1cdi 1T1cdj 1T1cdf 1T1cdg 1T1cdh 1T1cdi 1T1cdp 1T1cdq 1T1cdr
1T1cds 1T1ccm 1T1ccn 1T1cco 1T1ccp 1T1cco 1T1ccp 1T1ccq 1T1ccr 1T1cdq 1T1cdr 1T1cds 1T1cdt 1T1cdv
1T1cdw 1T1cdx 1T1cdy 1T1cdw 1T1cdx 1T1cdy 2T1cdz 1T1ce0 1T1ce1 1T1ce2 1T1cdx 1T1cdy 1T1ce0 1T1ce1
1T1ce0 1T1ce1 1T1ce8 1T1ce9 1T1cdu 1T1cdv 1T1ce3 1T1ce4 1T1cdh 1T1cdi 1T1cdj 1T1cdk 1T1cdf 1T1cdg
1T1cdh 1T1cdi 1T1cdf 1T1cdg 1T1cdh 1T1cdi 1T1cdl 1T1cdm 1T1cdn 1T1cdo 1T1cdg 2T1cdh 1T1cdi 1T1cdj
1T1cdk 1T1cdg 2T1cdh 1T1cdi 1T1cdj 1T1cdk 1T1cdo 1T1cdp 1T1cdq 1T1cdr 1T1cd8 2T1cd9 1T1cda xV
1T1cfa 1T1cfb 1T1cfc 1T1cfd 1T1ceo 1T1cep 1T1cer 1T1ces 1T1cer 1T1ces 1M1c7,19w 1T1cer 1T1ces
1T1cez 1T1cf0 1T1cex 1T1cey 1T1ces 1T1cet 1T1ceu 1T1cev 1T1cin 1T1cio 2M17q,17r 2M17q,1cl
2M17q,18o 2M17q,1c7 2M17q,1c6 2M17q,1c8 3M17q,1cg 3M17q,18p 1T1cfk 1T1cfl 1T1cfm 1T1cfn 1M17q,17w
1M17q,17x 1M17q,18l 1M17q,18p 1M17q,18q 1M17s,17w 1M17s,17x 1M17s,17y 1M17s,18l 1M17s,18p
1M17s,18q 1M17u,17w 1M17u,17x 1M17u,17y 1M17u,18l 1M17u,18p 1M17u,18q 1M17v,17w 1M17v,18l
1M17v,18p 1M17v,18q 1M17w,17x 1M17w,18l 1M17x,17w 1M17x,18l 1M17y,17w 1M17y,17x 1M17y,18l
1M183,17w 1M183,17x 1M183,17y 1M183,18l 1M185,17x 1M185,18l 1M186,17w 1M186,17x 1M186,17y
1M186,18l 1M187,17x 1M187,18l 1M188,18l 1M189,17w 1M189,18l 1M18a,17w 1M18a,18l 1M18h,17w
1M18h,17x 1M18h,17y 1M18h,18l 1M18h,18p 1M18h,18q 1M18i,17x 1M18i,18l 1M18i,18p 1M18i,18q
1M18j,17r 1M18j,17w 1M18j,17x 1M18j,17y 1M18j,18k 1M18j,18l 1M18j,18p 1M18j,18q 1M18k,17w
1M18k,17x 1M18k,17y 1M18k,18l 1M18k,18p 1M18k,18q 1M18l,17w 1M18l,17x 1M18l,17y 1M18l,18l
1M18l,18p 1M18l,18q 1M18m,17w 1M18m,17x 1M18m,17y 1M18m,18l 1M18m,18p 1M18m,18q 1M18n,17w
1M18n,18l 1M18n,18p 1M18n,18q 1M18q,17w 1M18q,17x 1M18q,17y 1M18q,18l 1M18q,18p 1M18q,18q
1M180,19s 1M181,19s 1M18p,19s 1Mw,18s,18x 1Mw,18t,18x 1Mw,18u,18x 1Mw,18v,18x 1Mw,18w,18x
1Mw,18x,19s 1M17q,181 1M17q,182 1M17q,18l 1M17q,18m 1M17q,18p 1M17q,18q 1M17s,181 1M17s,182
1M17s,18l 1M17s,18m 1M17s,18p 1M17s,18q 1M17u,181 1M17u,182 1M17u,18l 1M17u,18m 1M17u,18p
1M17u,18q 1M17v,181 1M17v,182 1M17v,18l 1M17v,18m 1M17v,18p 1M17v,18q 1M18h,18p 1M18h,18q
1M18i,18p 1M18i,18q 1M18j,17r 1M18j,18k 1M18j,18l 1M18j,18p 1M18j,18q 1M18k,18l 1M18k,18p
1M18k,18q 1M18l,17r 1M18l,18l 1M18m,181 1M18m,182 1M18m,18l 1M18m,18m 1M18m,18p 1M18m,18q
1M18p,19s 1M18q,181 1M18q,182 1M18q,18l 1M18q,18m 1M18q,18p 1M18q,18q 1M17q,17w 1M17q,17x
1M17q,17y 1M17q,18l 1M17q,18n 1M17s,17w 1M17s,17x 1M17s,17y 1M17s,18l 1M17s,18n 1M17u,17w
1M17u,17x 1M17u,17y 1M17u,18l 1M17u,18n 1M17v,18l 1M17w,17x 1M17w,18l 1M17x,17w 1M17x,18l
1M17y,17w 1M17y,18l 1M183,17w 1M183,17x 1M183,17y 1M183,18l 1M185,17x 1M185,17y 1M185,18l
1M186,17w 1M186,17x 1M186,17y 1M186,18l 1M187,17x 1M188,18l 1M189,17w 1M189,18l 1M18a,17w
1M18a,18l 1M18h,17w 1M18h,17x 1M18h,17y 1M18h,18l 1M18i,17x 1M18i,18l 1M18j,17w 1M18j,17x
1M18j,17y 1M18j,18k 1M18j,18l 1M18k,17w 1M18k,17x 1M18k,17y 1M18k,18l 1M18k,18n 1M18l,17w
1M18l,17x 1M18l,17y 1M18l,18l 1M18m,17w 1M18m,17x 1M18m,17y 1M18m,18l 1M18m,18n 1M18n,17w
1M18n,18l 1M18n,19s 1M18q,17w 1M18q,17x 1M18q,17y 1M18q,18l 1M18q,18n 1M17q,18l 1M17q,18n
1M17s,18l 1M17s,18n 1M17u,18l 1M17u,18n 1M17v,18l 1M17v,18n 1M183,18l 1M183,18n 1M184,18l
1M184,18n 1M18j,18k 1M18j,18l 1M18k,18l 1M18m,18l 1M18m,18n 1M18q,18l 1M18q,18n 1M18g,18u,18x
1M18g,18v,18x 1M18g,18w,18x 1M187,18p 1M187,18q 1M189,18p 1M189,18q 1M18a,18p 1M18a,18q 1M183,18p
1M183,18q 1M184,18p 1M184,18q 1M17x,18p 1M17x,18q 1M17w,18p 1M17w,18q 1M17y,18p 1M17y,18q
1M185,18p 1M185,18q 1M186,18p 1M186,18q 1M184,17w 1M184,17x 1M184,17y 1M184,18l 1M184,181
1M183,181 1M185,181 1M186,181 1M187,18p 1M187,18q 1M189,18p 1M189,18q 1M18a,18p 1M18a,18q
1M183,18p 1M183,18q 1M184,18p 1M184,18q 1M17x,18p 1M17x,18q 1M17w,18p 1M17w,18q 1M17y,18p
1M17y,18q 1M185,18p 1M185,18q 1M186,18p 1M186,18q 1M184,17w 1M184,17x 1M184,17y 1M184,18l
1M184,181 1M183,181 1M185,181 1M186,181 1M184,17w 1M184,17x 1M184,17y 1M184,18l 1M183,18n
1M184,18n 1M187,18l 1M183,17w 1M183,17x 1M183,17y 1M184,17w 1M184,17x 1M184,17y 1M187,18l
1M188,18l 2M17r,18r iV 1M17u,17w,18l 2M17u,17x,17w 1M17u,17x,18l 1M17u,17y,18l 1M17u,18l,17w
1M17u,18l,17x 1M17u,18l,17y 2M17w,18l,17x 1M17x,18l,18q 1M17x,18l,18p 1M183,17x,17w 1M183,17w,17x
1M183,17w,18p 2M183,18l,17x 1M183,18l,17w 2M183,18l,18l 2M185,17x,17x 1M185,18l,18l 2M184,17x,18l
1M184,17w,18q 2M184,18l,17y 2M184,18l,18l 1M186,17x,18p 2M186,17y,18l 2M187,18l,17x 1M187,18l,18l
1M187,18l,18q 1M189,17w,18l 2M189,18l,18l 1M189,18l,18p 1M18a,18l,18l 1M18a,18l,18q 1M18a,18l,18p
2M18h,17y,18l 1M18i,18l,17x 1M18i,18l,18l 1M18k,17x,18l 1M18k,17x,18q 1M18k,17x,18p 2M18k,17w,17w
2M18k,17y,18l 2M18k,18l,17x 1M18l,17x,17w 1M18l,17x,18l 1M18l,17x,18q 1M18l,17w,17x 1M18l,17w,18l
1M18l,17y,17w 1M18l,17y,18l 2V 1M18l,17w,17y 1M18n,18l,17w 1M18n,18l,18l 1M18m,17x,18l
1M18m,17x,18p 2M18m,17w,18l 1M18m,17w,18p 1M18m,18l,18q 1M18m,18l,18p 2M18q,18l,18l 1M17s,17y,18q
1M17u,17w,18q 1M17u,17w,18p 1M17u,17y,18q 1M17u,17y,18p 1M17u,18l,18q 1M17u,18l,18p 1M17w,18l,18q
1M17w,17x,18p 1M17w,18l,18p 1M183,17y,18p 1M185,17x,18q 1M184,17x,18q 1M186,17x,18q 1M18k,17w,18q
1M18k,18l,18q 1M18q,17x,18q 1M18q,17w,18q 1M18q,18l,18q 1M18l,18l,18q 1M18i,18l,18q 1M18m,17x,18q
1M18i,18l,17x 1M18k,17x,18l 1M189,18l,18q 1M18j,18l,18q 1M18m,17w,17x 1M18l,17y,18q 1M18k,17w,18l
1M18j,18l,18l 1M18k,17w,18l 1M18m,17w,17x 1M17w,17x,18q 1M17x,17w,18q 1M18l,17w,18q 1M18h,18l,18q
1M17s,17x,18q 1M18j,18l,18l 1M189,17w,18l 1M185,18l,18l 1M183,17y,18q 1M18m,17w,18q 8V wX
1M185,18k,1ci 1M18i,18k,1ci 1M17r,18k,18k,18n 1M17r,18j,17s,181 1M18l,17x,18l,17z
1M185,18k,189,18l 1M181,183,18o,18k 1M189,18k,18q,18n 1M18o,183,18k,18l 1M185,18k,18p
1M185,18k,18p,w,17r,18k,18k,18n,w,189,18k,18q,18n,w,18o,183,18k,18l
1M17w,18k,w,17w,18k,17r,18k,18n 1M181,1cc,17r,18k 3V gI 1T1e5g 1T14pc 1X 2T1e55 1T1e5w 1T1e53
2T14ox 7X gV 1X 1T17vh 1T17vj 1T1e50 1T1e51 2T1e6l 1T1e4c 1T1e4b 2T14px 2T14q3 2T14qb 2T14qf
4T14qd 2V 1T1e5o 1T1e5n 4Mw,lh 1T1e5q 1T1e5r 1T1e5s 1T1e78 1T14r4 2X 1T1e6x 1T1e6z 1T1e6v 1T1e7q
1T17wk 2T1e7l 1T1e5c 1T1e5b 2T14qx 1T1e7w 1T1e7u 2T1e7r 1T1e7q 1T1e7c 1T1e7b 1T1e7d 1X 1T1e6k
2T1e85 1T1e7f 4X 1Mw,18r 1M18g,18r 1Mw,18s 1V 1Mw,18t 1X 1Mw,18u 1M18g,18u 1Mw,18v 1M18g,18v
1Mw,18w 1M18g,18w 1Mw,18x 1M18g,18x 1Mw,18y 1M18g,18y 2T1d27 2T1d28 2T1d29 2T1d2a 2T1d2b 1T1d2c
1T1d2d 2T1d2e 2T1d2f 1T1d2g 1T1d2h 2T1d2i 2T1d2j 1T1d2k 1T1d2l 2T1d2m 1T1d2n 1T1d2o 2T1d2p 1T1d2q
1T1d2r 2T1d2s 1T1d2t 1T1d2u 2T1d2v 1T1d2w 1T1d2x 2T1d2y 2T1d2z 2T1d30 2T1d31 2T1d32 1T1d33 1T1d34
2T1d35 1T1d36 1T1d37 2T1d38 1T1d39 1T1d3a 2T1d3b 1T1d3c 1T1d3d 2T1d3e 1T1d3f 1T1d3g 2T1d3h 1T1d3i
1T1d3j 2T1d3k 1T1d3l 1T1d3m 2T1d3n 1T1d3o 1T1d3p 1T1d3q 1T1d3k 1T1d3l 1T1d3m 2T1d3n 1T1d3o 1T1d3p
2T1d3q 1T1d3r 1T1d3s 2T1d3t 1T1d3u 1T1d3v 2T1d3w 1T1d3x 1T1d3y 2T1d3z 1T1d40 1T1d41 2T1d42 1T1d43
1T1d44 2T1d45 2T1d46 2T1d47 1T1d48 1T1d49 1T1d4a 2M18k,17m 2M18k,17n 2M18k,17p 2M18k,17r 2X 1I 1X
wT1ecg qT1ebk 10T1ecg 2T168q 1T1eer 2T14ye 1T14yr 1T14ru 1T14s4 1T14ue 1T14ud 1T14uc 1T14ub 1T14ua
1T14sp 1T14so 1T14sn 1T14to 1T14s4 1T14un 1T14um 1T14ul 1T14uk 2T14uj 1T14ui 1T14uh 1T14ug 1T14uf
1T14ue 1T14ud 1T14uc 1T14ub 1T14ua 1T14u9 1T14u8 1T14u6 1T14u5 1T14u4 6T14u3 1T14u1 1T14tz 1T14tx
1T14tv 5T14tt 1T14ts 1T14tr 6T14tq 1T14tp 1T14tm 2T14w5 1I 2T1b4x 1T1b09 1T1b4y 2T1b09 3T1b50
6T1b0a 1T1b4m 3T1b57 1T1b4j aT1b58 3X 6T1b35 2X 6T1b37 2X 6T1b39 2X 3T1b3b 3X 2T1ef2 1T1eeu 1Mw,lg
1T1ef2 1T1ef4 1T183h 1X 1T178m 4T17x5 1T174d 1T1737 hX cV 1X qV 1X jV 1X 2V 1X fV 2X eV yX 3fV 5X
3V 4X 19V 3X 2gV 1X dV 3X 1V 1bX 1aV 3mX tV 3X 1dV fX sV 4X 10V 9X uV 5X 17V 5X uV 1X 11V 4X eV
16X 14S14 3aV 2X aV 6X 10S14 4X 10V 4X 14V 8X 1gV bX 1V bS13 1X fS13 1X 7S13 1X 2S13 1X bV 1X fV
1X 7V 1X 2V 3X 1gV cX 8nV 9X mV aX 8V oX 1V 2T1fht 1T1fvh 1T1fjf 1T1fle 1X 1T1fj8 1Ti76 1T1fj8
1T1fja 2T1flh 1T1a7w 1T1fli 1T1fld 1T1fjb 1T1fl9 1T1flc 1T1flf 1T1fjt 1T1fu6 1T1fju 1T1flc 1T1fkk
2T1fjj 1T1flb 1S16js 1Tiz3 1T1flc 1S16jq 1T1fki 1S16jp 1T1fvu 2T1fl9 1T1fzo 1T1fl8 1S16jl 2T1fl7
1T1fl6 1T1fk3 1T1fk6 1Ti86 1T1fk7 1T1fl3 1T17b3 1X 1T1fkz 2T1fki 1T1fkt 3T1fqu 1S16j5 1S16jo 1xX
6V 2X 1V 1X 18V 1X 2V 3X 1V 2X nV 1X 20V 8X 9V 1cX jV 1X 2V 5X xV 3X rV 5X rV 12X 1kV 4X kV 2X 1eV
1X 2V 5X 8V 1X 3V 1X tV 2X 3V 4X aV 7X 9V 7X 1sV wX 13V 4X cV 9X 1iV 3X tV 2X rV 5X qV 7X 4V cX 7V
28X 21V 1jX 1fS1s dX 1fV 7X 1aV 8X aV 6X gV mSw 3X tV 8X 2V 5sX vV 1X 16V 1X 3V 2X 2V gX 6V 8X 9V
xX 1aV 8X 16V mX qV 12X sV kX nV 9X 26V 4X 10V 9X 1qV 1X 5V dX pV 7X aV 6X 1hV 1X iV 8X 13V 9X 2oV
1X kV bX iV 1X 1bV 1qX 7V 1X 1V 1X 4V 1X fV 1X bV 6X 1nV 5X aV 6X 4V 1X 8V 2X 2V 2X mV 1X 7V 1X 2V
1X 5V 1X aV 2X 2V 2X 3V 2X 1V 6X 1V 5X 7V 2X 7V 3X 5V bX aV 1X 1V 2X 1V 1X 12V 1X aV 1X 1V 2X 1V
1X 4V 1X aV 1X 2V 8X 2V tX 2kV 1X 5V uX 20V 8X aV 4mX 1iV 2X 12V yX 1xV bX aV 6X dV jX 1mV 6X aV
6X kV sX rV 2X fV 4X nV 55X 1oV 2sX wSw 1fV cX 8V 2X 1V 2X 8V 1X 2V 1X uV 1X 2V 2X cV 9X aV 1yX 8V
2X 1aV 2X bV rX 20V 8X 2bV dX 21V 7X aV 2eX 8V 2gX yV eX aV 6X 9V 1X 19V 1X eV aX tV 3X wV 2X mV
1X eV 21X 7V 1X 2V 1X 18V 3X 1V 1X 2V 1X 9V 8X aV 6X 6V 1X 2V 1X 11V 1X 2V 1X 6V 7X aV 6X 18V 4X
aV 6uX pV 7X hV 1X 15V 3X tV 2dX 1V fX 1eV dX pnV 2uX 33V 1X 5V bX 5gV 218X 2rV dX tsV gX mV aX
32zV 5X g7V 5a1X 1mV 1c6X ftV 7X vV 1X aV 4X 29V 1X aV 6X uV 2X 6V aX 1yV aX aV 1X 7V 1X lV 5X jV
c0X 1mV 5iX wSw 1nV 5X pSr 2X pV 18X 23V 4X 1lV 7X hV 1sX 5V bX 7V 9X 5p2V 15X wV 2pX 37V 6ppX 4V
1X 7V 1X 2V 1X 83V fX 1V tX 3V 2X 1V eX 4V 8X b0V 1s4X 2zV 5X dV 3X 9V 7X aV 2X 4V 4I 318X 5yV
qT2iyd aT2j0g 3V 3X c4V 6X nV fX hV fX 1aV 2X nV 9X 38V 1oX 6uV aX 13V 2X 1hV 1M2jx3,2jxh
1M2jx4,2jxh 1M2jx4,2jxh,2jxq 1M2jx4,2jxh,2jxr 1M2jx4,2jxh,2jxs 1M2jx4,2jxh,2jxt 1M2jx4,2jxh,2jxu
eV 8I 1sV 1M2jzt,2jxh 1M2jzu,2jxh 1M2jzt,2jxh,2jxq 1M2jzu,2jxh,2jxq 1M2jzt,2jxh,2jxr
1M2jzu,2jxh,2jxr 16V lX 1yV 3eX kV cX kV cX 2fV 9X pV 3rX qT2kdb qT2ke1 qT2ker 7T2kfh 1X iT2kfh
qT2kg7 qT2kgx 1T2khn 1X 2T2khn 2X 1T2khn 2X 2T2khn 2X 4T2khn 1X 8T2khn 4T2kid 1X 1T2kid 1X 7T2kid
1X bT2kid qT2kj3 qT2kjt 2T2kkj 1X 4T2kkj 2X 8T2kkj 1X 7T2kkj 1X qT2kl9 2T2klz 1X 4T2klz 1X 5T2klz
1X 1T2klz 3X 7T2klz 1X qT2kmp qT2knf qT2ko5 qT2kov qT2kpl qT2kqb qT2kr1 qT2krr qT2ksh qT2kt7
qT2ktx qT2kun qT2kvd 1T2kqb 1T2kj2 2X hT2k8n 1T2k8x 7T2k8n 1T2e9m hT2k9d 1T2k9c 7T2k9d 1T2eah
1T2k9z 1T2k9x 1T2k9w 1T2k9l 1T2k9r 1T2k9t hT2ka9 1T2kaj 7T2ka9 1T2eb8 hT2kaz 1T2kay 7T2kaz 1T2ec3
1T2kbl 1T2kbj 1T2kbi 1T2kb7 1T2kbd 1T2kbf hT2kbv 1T2kc5 7T2kbv 1T2ecu hT2kcl 1T2kck 7T2kcl 1T2edp
1T2kd7 1T2kd5 1T2kd4 1T2kct 1T2kcz 1T2kd1 hT2kdh 1T2kdr 7T2kdh 1T2eeg hT2ke7 1T2ke6 7T2ke7 1T2efb
1T2ket 1T2ker 1T2keq 1T2kef 1T2kel 1T2ken hT2kf3 1T2kfd 7T2kf3 1T2eg2 hT2kft 1T2kfs 7T2kft 1T2egx
1T2kgf 1T2kgd 1T2kgc 1T2kg1 1T2kg7 1T2kg9 1T2kfh 1T2kfi 2X aT2l5q aT2l60 aT2l6a aT2l6k aT2l6u i4V
fX 5V 1X fV uoX vV 6X 6V 5xX 7V 1X hV 2X 7V 1X 2V 1X 5V 5X 9T2m0w 3T2m0v bT2m0u 1T2m0s 2T2m0r
1T1pz5 1T2lwy 1T2m0m 1T2m0l 1T2lwl 1T2ly8 1T2lxd 9T2m1t 2T2m1s 2T2m1q 1T2m1p 6T2m1o 2T2m1n 1T2lzq
1T2m1e 1T2m1g 1T2m17 1T2lz4 1T1q1n 1T2lz0 xX 1V 34X 19V 3X eV 2X aV 4X 2V 8wX vV hX 1mV 5X 1V cwX
16V 5yX 17V 4X 1V 5cX vV 1X mV 8X 2V 68X 7V 1X 4V 1X 2V 1X fV 1X 5hV 2X gV 15X ySy 16V 4X aV 4X 2V
ltX 1wV 24X 1pV 5eX 2T2od5 1T2od2 1T2od0 1X 1T2ocd 1T2od0 1T2od6 1T2ocx 1T2ocf 4T2ocn 1T2od7
1T2od2 1T2ocv 1T2od8 1T2ocw 1T2ode 1T2odc 2T2odn 1T2odl 1T2odk 1T2odf 1T2ode 1T2odd 1T2oby 1T2o9v
1T2oal 1T2oc0 1X 1T2oe1 1T2ody 1X 1T2od9 2X 1T2oe2 1X 1T2odb 4T2odj 1T2oe3 1T2ody 1T2odr 1T2oe4
1T2ods 1X 1T2oe8 2T2oej 1T2oeh 1X 1T2oeb 1X 1T2oe9 6X 1T2oeu 4X 1T2oey 1X 1T2oe7 1X 1T2oef 1X
1T2oef 1T2oez 1T2oeu 1X 1T2of0 1T2oeo 1X 1T2of4 2X 1T2ofd 1X 1T2of7 1X 1T2of5 1X 1T2obn 1X 1T2ods
1X 1T2oft 1T2ofq 1X 1T2of1 2X 1T2ofu 1T2ofl 1T2of3 1T2ofb 1X 2T2ofb 1T2ofv 1T2ofq 1T2ofj 1T2ofw
1T2ofk 1X 1T2og0 2T2ogb 1T2og9 1X 1T2og3 1T2og2 1T2og1 1T2oem 1X 1T2od9 1X 2T2ogp 1T2ogm 1T2ogk
2T2ofx 1T2ogk 1T2ogq 1T2ogh 1T2ofz 1X 3T2og7 1T2ogr 1T2ogm 1T2ogf 1T2ogs 1T2ogg 1T2ogy 1T2ogw
2T2oh7 1T2oh5 1T2oh4 1T2ogz 1T2ogy 1T2ogx 5X 1T2ohl 1T2ohi 1T2ohg 1X 1T2ogt 1T2ohg 1T2ohm 1T2ohd
1T2ogv 1X 3T2oh3 1T2ohn 1T2ohi 1T2ohb 1T2oho 1T2ohc 1T2ohu 1T2ohs 2T2oi3 1T2oi1 1T2oi0 1T2ohv
1T2ohu 1T2oht 1gX 2V 7iX 18V 4X 2sV cX fV 2X fV 1X fV 1X 11V bX 1M1c,18 1M1d,18 1M1e,18 1M1f,18
1M1g,18 1M1h,18 1M1i,18 1M1j,18 1M1k,18 1M1l,18 5V 1M14,2p,15 1M14,2q,15 1M14,2r,15 1M14,2s,15
1M14,2t,15 1M14,2u,15 1M14,2v,15 1M14,2w,15 1M14,2x,15 1M14,2y,15 1M14,2z,15 1M14,30,15 1M14,31,15
1M14,32,15 1M14,33,15 1M14,34,15 1M14,35,15 1M14,36,15 1M14,37,15 1M14,38,15 1M14,39,15 1M14,3a,15
1M14,3b,15 1M14,3c,15 1M14,3d,15 1M14,3e,15 1M9hw,37,9hx 1T2q4o 1T2q4a 1M2r,2s 1M3b,3e 1V qT2q4v
1M2w,3a 1M31,3a 1M37,2s 1M37,37 1M34,34,3a 1M3b,2r qV 1M31,2r 1M31,2s 1M31,36 zV 1M2s,2y tV 1kX qV
1M9kr,9jf 1M9mb,9mb 1T2gr1 dX 1T26yt 1T28ca 1T29ty 1T2gr0 1T2avc 1T28sb 1T1z5f 1T28ry 1T2aus
1T267t 1T241l 1T26bm 1T2a4v 1T27ip 1T2aa9 1T26b3 1T2a6b 1T21nj 1T239f 1T1ym2 1T28tw 1T29rg 1T24gi
1T26xe 1T26s3 1T2azt 1T2azl 1T1xwh 1T27uu 1T2ayo 1T29tn 1T26ug 1T1ygw 1T26zi 1T22ep 1T227t 1T29t8
1T24l1 1T2625 1T2627 1T239h 1T2a4n 1T29hg 1T1xpq 4X 1M9hw,kdo,9hx 1M9hw,fex,9hx 1M9hw,fik,9hx
1M9hw,i2x,9hx 1M9hw,m9l,9hx 1M9hw,jf7,9hx 1M9hw,nh3,9hx 1M9hw,gd9,9hx 1M9hw,k0n,9hx 7X 1T27jt
1T29uq eX 6V 4aX rdV 3X hV 3X dV 3X 62V 6X cV 4X 1V fX cV 4X 1kV 8X aV 6X 14V 8X uV 2X cV 4X 2V eX
9V 13X 9kV 8X eV 2X dV 3X bV 3X 1lV 1X 1V 4X gV 2X cV 4X aV 7X 43V 1X 2kV aT2sao 1V slX wyoV wX
3dqV 2X 4geV 2X 5rlV fX haV 1wiX 1T3qo3 1T3qo9 1T3qo1 1T1crl 1T3qg4 1T3qdz 1T3qdn 1T3qbp 1T3q8e
1T3q7k 1T3q5f 1T3q64 1T3vqm 1T1brn 1T3q2p 1T3q2j 1T3q24 1T3q1m 1T1bzq 1T3vq2 1T3q25 1T3q14 1T1byj
1T3q0w 1T3q0k 1T3qkt 1T3q0e 1T3q06 1Tk71 1T3pyg 1T3py3 1T3vpc 1T3pwl 1T3pwb 1T3pv4 1T3pv0 1T3vnz
1T3psu 1T3pst 1T3ps3 1T3pri 2T3pr8 1T3pqs 1T3ppf 1T3pp8 1T3pp0 1T3poc 1T3po3 1T3po2 1T3po3 1T3po4
1T1b0o 1T3jyd 1T3pm4 1T3plk 1T1as5 1T3pla 1T3pl5 1T3pkl 1T3pge 1T3pj9 1T3piu 1T3phz 1T3pge 1T3pe3
1T3pde 1T3pbk 1T3pb5 1T3pa9 1T3paa 1T3p9q 1T3p99 1T3p92 1T3p8o 1T3oz9 1T3p6u 1T3oza 1T3p4t 1T3p3v
1T3pzd 1T3omb 1T3ouc 1T3otb 1T3osn 1T3owa 1T3oro 1T3orq 1T3ooc 1T18xh 1T3omg 1T3omc 1T3oly 1T3olf
1T3ol8 1T3ojh 1T18l4 1T18jb 1T3ofq 1T3oeg 1T3oe5 1T3ogd 1T3ocg 1T3vcp 1T3vcc 1T3o81 1T3o6k 1T3o6l
1T17z8 1T3o2y 1T3o2e 1T3o20 1T3o1p 1T17q1 1T3o1f 1T3o19 1T3ndt 1T3o0j 1T3v91 1T3nyv 1T3nyi 1T3nw9
1T3nxp 1T176f 1T3nsp 1T176f 1T3nrk 1T3nro 1T3nr8 2T3nog 1T3v4k 1T3nnr 1T3nml 1T3nm1 1T3nku 1T3v3a
1T16h2 1T3v2m 1T3niz 1T3nix 1T3niv 1T3nic 1Tgsd 1T3ngy 1T165c 1T165d 1T3gk2 1T3ng2 1T3ng3 1T3v0v
1T1333 1Ttry 1T3nef 1T3ne7 1T3v08 1T3ncy 1T3nbk 1T3nbb 1T3nae 1T3n6n 1T3uxz 1T3uyu 1T3n67 1T15g0
1T3n4u 1T3n1a 1T3n17 1T3n16 1T3n19 1T3n00 1T3mzh 1T3myi 1T3myx 1T3myn 1T3mxd 1T3mwu 1T3mwr 1T3mw2
1T3mvs 1T3mtz 1T3mro 1T3mqq 1T3mnb 1T14mk 1T3mnw 1T3mpq 1T3mmr 1T3mm1 1T3mjd 1T14gd 1T3mhp 1T3mkb
1T3ml4 1T3us4 1T3mfu 1T3mfa 1T3meg 1T3mfj 1T3uqj 1T3m9l 1T3m8t 1T13nk 1T3m5k 1T3lxw 1T3m2s 1T3ulx
1T3m0u 1T3umg 1T3unh 1T3q68 1T3q66 1T3lxw 1T3m0p 1T3gvd 1T3svy 1T3lxd 1T3lxa 1T3lx5 1T3lvh 1T3lvt
1T12xm 1T3ul1 1T3lr9 1T3luj 1T3lov 1T3lnh 1T12t2 1T3lna 1T3lqe 1T3ljm 1T3uiy 1T3lie 1T3lfq 1T3lds
1T3l8j 1T12dl 1T3l76 1T3ufq 1T3l5a 1T11zd 1T3l3x 1T3uec 1T3l35 1T3l1x 2T3l17 1T11m2 1T17fx 1T11j3
1T3kx8 1T116n 1T3ku5 1T3kts 1T3kwn 1T3krt 1T3kqq 1T3kp6 1T3kqp 1T3kpm 1T3kp8 1T3kow 1T1148 1T3kr7
1T3kk9 1T3kij 1T3u8n 1T3kg0 1T3kg5 1T10sc 1T3klx 1T3kbl 1T10oi 1T10n7 1T3k98 1T3k62 1T3k6u 1T3k6y
1T3u68 1T3k5p 1T3k4b 1T3k4i 1T3k31 1T1c6u 1T3jyv 1T103e 1T3jwi 1Tzuc 1T3jso 1T3jsc 1T3jrm 1Tzdn
1T3jqc 1T3jps 1Tz5d 1Tyz7 1T3jji 1T3jj2 1T3tz2 1T3jie 1T3tys 1T3tyt 1T3jdz 1T3jdf 1T3jcv 1T3jcc
1T3jag 1T3tw8 1T3j80 1Ty67 1T3j7c 1Ty3p 1T3j60 1T16l6 1T3j1m 1Txi2 1Txhg 1Txdl 1T3tqa 1T3tpz
1T3ivg 1Tx8u 1Tx8w 1Tx7u 1Tx75 2T3iuf 1T3iug 1T3ita 1T3tow 1T3irj 1T3tol 1T3tme 1Twmo 1T3im8
1T3ikj 1T3iis 1T3tke 1Tw8c 1T3if1 1Tw56 1Tw40 1T3idj 1T3ib0 1T3tih 1T3i8p 1T3i8g 1T3i8c 1Tvkw
1Tvcm 1Tvcn 1T3i41 1T3tcu 1Tv5i 1T3hy4 1T3hy2 1T3tbx 1Tuzp 1T3hqs 1T3t8n 1T3hq8 1T3hqe 1T3hpm
1Tued 1T3hmx 1T3t64 1T3hk7 1T3hil 1T3hgr 1T3t4t 1Ttvu 1Ttv0 1T3t3v 1Ttr0 1T3h8c 1Tto9 1T3h7n
1T3h4v 1T3h4l 1Ttcx 1Ttax 1T3h25 1Tt7a 1T3h1r 1T134x 1T3t0s 1T3h00 1T3gxs 1T3szd 1T3gw7 1T3oi9
1Tstc 1Tssz 1T133q 1T133i 1T3gqy 1T3gqw 1T3e27 1T3swz 1T3gn2 1T3gn9 1T3gms 1T3q3j 1T3gma 1T3gm9
1T3gm0 1T3gkw 1Ts4b 1T3gkz 1T3gjg 1T3ghj 1T3gfi 1T3gjd 1T3gf4 1T3gdz 1T3gaw 1T3gi5 1T3gev 1T3geu
1T3gef 1Trxq 1Trp6 1Trtd 1T3ssc 1T3g6v 1T3g6u 1T3g5w 1Tqg1 1T3g3s 1Trcx 1T3sr5 1T3sr2 1Tr9b 1Tr1b
1T3sqv 1T3fxf 1T3fx4 1T3fwu 1T3fwt 1T3fv2 1T3fw0 1T3fsb 1T3ftk 1T3fpe 1T3fro 1T3fpu 1T3fp4 1T3so8
1T3fmn 1T3fls 1T3snd 1T3fj7 1T3fj5 1Tpy6 1T3ffz 1T3fft 1T3slv 1T3ff3 1T3w27 1Tpi5 1Tpd2 1T3si7
1T3shz 1T3f3j 1T3f1f 1T3ex3 1T3erh 1Toq3 1T3ep5 1T3eok 1T3em3 1T3ejk 1To89 1T1brp 1T3ehb 1T3ehr
1T3egc 1T1blr 1T3ea2 1T3e7b 1Tmxa 1Tmwk 1T3dxq 1T3dv6 1T3dub 1Tmnr 1T3du3 1T3dm7 2T3dht 1T3dke
1T3d9u 1T3d93 1Tlpv 1T3cyr 1T3ryy 1T3cxl 1Tlfe 1T3rws 1T3cq8 1T3o02 1T3cnm 1Tkoh 1Tkil 1T3rt6
1T3rsz 1T3cii 1Tk4x 1T3rre 1Tk13 1T3chf 1T3chg 1T3cgn 1Tjt7 1T3cbk 1T3ro0 1T3c9n 1T3c66 1T3c5g
1T3c3t 1T3rju 1Tiqh 1T3bw8 1T3bnv 1T3bin 1T3rcv 1T3rc1 1T3bfs 1Thmq 1T3rbt 1Thl9 1Thdx 1Thab
1T3b6i 1T3r9c 1T3b4u 1T3b4q 1T3b4k 1T3b4b 1T3b45 1T3b35 1Tgm5 15uX 3t7V 5X 6juV f62uX 6oI 47bkX"

/-- What becomes of a character of a domain name: the characters that replace it, or `none` where it
is refused. -/
def mapped? (c : Char) : Option (List Char) :=
  match mappingTable.find? c with
  | none => none
  | some run =>
      let n := c.toNat
      match run.letter, run.operands with
      | 'V', _ => some [c]
      | 'I', _ => some []
      | 'S', [d] => some [Char.ofNat (n + d)]
      | 'T', [d] => some [Char.ofNat (n - d)]
      | 'M', operands => some (operands.map Char.ofNat)
      | _, _ => none

end GaleraProxy.Unicode
