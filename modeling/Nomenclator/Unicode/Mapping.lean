import Nomenclator.Unicode.Ranges

/-!
# Characters of domain names

What becomes of a character in a domain name: it is kept, it vanishes, it spoils the name, or it
stands for other characters. Capital letters stand for small ones, ligatures and other variants
for the usual form, so that names that look the same are the same.
-/

namespace Nomenclator.Unicode

/-- What becomes of a character in a domain name. -/
inductive Treatment where
  | kept
  | refused
  | dropped
  /-- It stands for the character at a distance. -/
  | moved (distance : Int)
  /-- Pairs of a capital and a small letter next to each other: the capital stands for the other. -/
  | paired
  | spelled (characters : List Char)
  deriving Repr, DecidableEq, Inhabited

namespace Treatment

/-- A signed number of a table. -/
def signedOf : List Char → Int
  | '-' :: s => -(numberOf s : Int)
  | s => numberOf s

/-- Reads a treatment from its letter and what belongs to it. -/
def ofWord (letter : Char) (s : List Char) : Treatment :=
  match letter with
  | 'V' => .kept
  | 'I' => .dropped
  | 'A' => .paired
  | 'S' => .moved (signedOf s)
  | 'T' => .spelled ((numbersOf s).map Char.ofNat)
  | _ => .refused

/-- The treatments of all characters, in writing. -/
def lines : List String := [
  "0V 1tSw qV 11X wS-3k 1V 7Tw.lk 1V 1S-21 1V 2I 1V 1Tw.lg 1V 2S-3k 2Tw.ld 1Slj 1V 2Tw.mf 1S-3s",
  "1S-23 1V 1T1d.6dg.1g 1T1d.6dg.1e 1T1f.6dg.1g 1V 1Sw nV 1Sw 7V xA 1cT2x.lj 1V 1T2x.2y 2A 4V",
  "1A 6T30.53 2A 8Tjg.32 1A 1aS-3d 1A 6S-7g 1V 1S5u 1A 4S5q 1S1 1V 1S5p 2S1 1V 2S27 1S5m 1S5n",
  "1S1 1V 1S5p 1S5r 1V 1S5v 1S5t 1S1 1V 3S5v 1S5x 1V 1S5y 1A 6S62 1S1 1V 1S62 1V 2S1 1V 1S62",
  "1S1 1V 1S61 2A 4S63 1S1 1V 3S1 1V 7T2s.am 3T30.2y 3T32.2y 3A gV 1A iV 1T2s.3e 3S1 1V 1S-2p",
  "1S-1k 1A 14S-3m 1V 1A iV 6S8bv 1S1 1V 1S-4j 1S8bs 1V 2S1 1V 1S-5f 1S1x 1S1z 1A aV 2oS-g8",
  "1S-23 1S-g8 1S-g1 1S-1n 1S-1m 1S-1h 1S-g0 1S-fz 1V vTw.li 1Tw.lj 1Tw.lm 1Tw.mg 1Tw.lf 1Tw.ln",
  "1V 2S-3h 1S-hh 1S-hb 1S-h7 1S-27 1V 2jS-1s 2V 1S-1c 1Tlk.ld 1S38 1V 9I 1V wA 4S-57 1V 1S1 1V",
  "1X 2Tw.qh 1V 3S-n7 1S38 1X 4Tw.ld 1Tw.lk.ld 1S12 1S-k0 1S11 3X 1S1s 1X 1S1r 2V 1Sw hX 1Sw 9V",
  "zS8 1S-u 1S-p 1S-d 1S-6 1S-9 1S-f 1S-m 1V 1A oS-1i 1S-1c 1S-1b 1V 1S-1o 1S-1s 1V 1S1 1V",
  "1S-1i 1S1 1V 2S-3m 3S28 gSw wV 1cA yV 8A 1iSf 1A eV 1A 2oX 1S1c 12X 2V 1aT12d.136 1V 3X 2V",
  "3X 1V 1jX 8V rX 4V 6X hV mX 1V 2gT17r.19w 1T18o.19w 1T1c7.19w 1T18q.19w 1V 2sX 1V 1cX 2V 1nX",
  "2V 2tX eV 1nX 2V 1dX 2V fX 1V sX 2V 1X 1V bX 5V wX 7V 23X 1V 39T1sl.1to 1T1sm.1to 1T1sn.1to",
  "1T1ss.1to 1T1sx.1to 1T1sy.1to 1T1t7.1to 1T1tb.1to 1V 10X 1V 8X 2V 2X 2V mX 1V 7X 1V 1X 3V 4X",
  "2V 9X 2V 2X 2V 4X 8V 1X 4T1wh.1x8 1T1wi.1x8 1X 1T1wv.1x8 1V 4X 2V pX 2V 3X 1V 6X 4V 2X 2V mX",
  "1V 7X 1V 1T20i.20s 1X 1V 1T20o.20s 1X 1V 2X 2V 1X 1V 5X 4V 2X 2V 3X 3V 1X 7T1zq.20s",
  "1T1zr.20s 1T1zw.20s 1V 1X 1T20b.20s 1X 7V hX aV 3X 1V 9X 1V 3X 1V mX 1V 7X 1V 2X 1V 5X 2V aX",
  "1V 3X 1V 3X 2V 1X fV 4X 2V cX 7V 7X 1V 3X 1V 8X 2V 2X 2V mX 1V 7X 1V 2X 1V 5X 2V 9X 2V 2X 2V",
  "3X 7V 3X 4T275.27w 1T276.27w 1X 1V 5X 2V iX aV 2X 1V 6X 3V 3X 1V 4X 3V 2X 1V 1X 1V 2X 3V 2X",
  "3V 3X 3V cX 4V 5X 3V 3X 1V 4X 2V 1X 6V 1X eV lX 5V dX 1V 3X 1V nX 1V gX 2V 9X 1V 3X 1V 4X 7V",
  "2X 1V 3X 1V 2X 2V 4X 2V aX 7V mX 1V 3X 1V nX 1V aX 1V 5X 2V 9X 1V 3X 1V 4X 7V 2X 5V 3X 1V 4X",
  "2V aX 1V 3X cV dX 1V 3X 1V 1fX 1V 3X 1V 6X 4V gX 2V qX 1V 3X 1V iX 3V oX 1V 9X 1V 1X 2V 7X",
  "3V 1X 4V 6X 1V 1X 1V 8X 6V aX 2V 3X cV 1eT2tp.2sy 1V 7X 4V tX 11V 2X 1V 1X 1V 5X 1V oX 1V 1X",
  "1V cT2x9.2wi 1V aX 2V 5X 1V 1X 1V 7X 1V aX 2T2wb.2vt 1T2wb.2w1 1V 2X wV cS-1 1V 1iT30i.33r",
  "1V 4X 1V 4T30s.33r 1V 4T30x.33r 1V 4T312.33r 1V 4T317.33r 1V cT30g.33p 1V 3X 4V 2T31t.31u 1V",
  "1T31t.31w 1T33m.328 1T33m.31t.328 1T33n.328 1T33n.31t.328 1V 7T31t.328 1V hT32q.33r 1V 4X 1V",
  "4T330.33r 1V 4T335.33r 1V 4T33a.33r 1V 4T33f.33r 1V cT32o.33p 1V 3X 1V fX 1V dX 11V 4gS5ls",
  "12X 1S5ls 1X 5S5ls 1X 2V 18S-w 1V 2qI 2V 6gX 1V 4X 2V 7X 1V 1X 1V 4X 2V 15X 1V 4X 2V xX 1V",
  "4X 2V 7X 1V 1X 1V 4X 2V fX 1V 1lX 1V 4X 2V 1vX 2V wX 3V qX 6V 2eX 2S-8 6X 2V hsX 1V sX 3V",
  "2hX 7V mX 9V oX 9V kX cV dX 1V 3X 1V 2X cV 1gI 2V 14X 2V aX 6V aX 6V bI 5V aX 6V 2hX 7V 17X",
  "5V 1yX aV vX 1V cX 4V cX 4V 1X 3V 16X 2V 5X bV 18X 4V qX 6V bX 3V 1qX 2V 1tX 1V tX 2V bX 6V",
  "aX 6V eX 2V 1aX 2V cX kV 25X 1V 4mX 8V 1oX 3V fX 3V 1fS-4su 1S-4st 1S-4sk 1S-4si 2S-4sj",
  "1S-4sc 1S-4ro 1Sr7n 1S1 1V 1X 5S-2bk 17X 2S-2bk 3V 8X 8V 17X 5V 18S-5or 1S-5l3 1S-5os 1V",
  "1S-5os 2S-5ed 1S-5os 8V 1S-5ot 1S-5cq 1S-5ou 1S-5ot 1S-5os 2S-5or 1S-5pe 1S-5bo 2S-1w 1S-5ph",
  "1S-5pg 2S-5bl 1S-5bk 2S-5pi 1V 1S-5pg 1S-5pf 1S-5ja 1S-5pf 1S-5bz 1S-1q 2S-5pi 1S-5pf 2S-1o",
  "1S-5bf 1S-5ph 1S-1j 1S-52j 3S-522 2S-5q1 1S-5pt 1S-5pr 2S-52s 2S-52f 1S-52b 2V dS-4zf 1V",
  "yS-5e1 1S-5rt 1S-5e0 1S-5ny 1S-5dv 1S-5ru 1S-5du 1S-5dt 1S-5dq 1S-5do 3S-18 1S-5cb 1S-5do",
  "1S-11 1S-5cc 1S-5dn 1S-5dp 1S-5do 4S-5dm 1S-5dd 2S-5je 1S-5d9 2S-4c 1S-5da 2S-5s1 1S-5d8",
  "3S-553 1V 1sA 46V 4T2p.ji 1S-1m 1V 2S-5vj 1V 1A 2oV 8S-8 8V 6X 2S-8 6X 2V 8S-8 8V 8S-8 8V 6X",
  "2S-8 6X 2V 8X 1S-8 1X 1S-8 1X 1S-8 1X 1S-8 1V 8S-8 8V 1S-5hh 1V 1S-5hi 1V 1S-5hj 1V 1S-5hk",
  "1V 1S-5gt 1V 1S-5gu 1V 1S-5gv 1X 2T64g.qh 1T64h.qh 1T64i.qh 1T64j.qh 1T64k.qh 1T64l.qh",
  "1T64m.qh 1T64n.qh 1T64g.qh 1T64h.qh 1T64i.qh 1T64j.qh 1T64k.qh 1T64l.qh 1T64m.qh 1T64n.qh",
  "1T65c.qh 1T65d.qh 1T65e.qh 1T65f.qh 1T65g.qh 1T65h.qh 1T65i.qh 1T65j.qh 1T65c.qh 1T65d.qh",
  "1T65e.qh 1T65f.qh 1T65g.qh 1T65h.qh 1T65i.qh 1T65j.qh 1T674.qh 1T675.qh 1T676.qh 1T677.qh",
  "1T678.qh 1T679.qh 1T67a.qh 1T67b.qh 1T674.qh 1T675.qh 1T676.qh 1T677.qh 1T678.qh 1T679.qh",
  "1T67a.qh 1T67b.qh 1V 2T67k.qh 1Tq9.qh 1Tq4.qh 1X 1V 1T69i.qh 1S-8 2S-22 1S-5jj 1Tq9.qh",
  "1Tw.lv 1S-5j9 1Tw.lv 1Tw.n6 1Tw.lk.n6 1T67o.qh 1Tqf.qh 1Tq6.qh 1X 1V 1T69y.qh 1S-2e 1S-5jw",
  "1S-2e 1S-5jx 1Tqf.qh 1Tw.lv.lc 1Tw.lv.ld 1Tw.lv.n6 1V 3S-5kz 1X 2V 2S-8 2S-2s 1S-5kc 1X",
  "1Tw.lw.lc 1Tw.lw.ld 1Tw.lw.n6 1V 3S-5kj 1V 4S-8 2S-34 1S-5jy 1S-7 1Tw.lk.lc 1Tw.lk.ld 1S-68f",
  "1X 2T67w.qh 1Tqx.qh 1Tr2.qh 1X 1V 1T6ba.qh 1S-3k 1S-5kd 1S-3i 1S-5kd 1Tqx.qh 1Tw.ld 1Tw.lw",
  "1X 1S-6ao 1S-6ap 1S-6aq 1S-6ar 1S-6as 1S-6at 1S-6au 1S-6av 1S-6aw 1S-6ax 1S-6ay 1I 1V 2X 2V",
  "1S-1 1V 5Tw.mr 1V cX 3V 1X 7S-6bz 1V 3T6cy.6cy 1T6cy.6cy.6cy 1V 1T6d1.6d1 1T6d1.6d1.6d1 1V",
  "4Tx.x 1V 1Tw.lh 1V 8T1r.1r 1T1r.x 1Tx.1r 1V dT6cy.6cy.6cy.6cy 1V 7S-6db 1I 5X 5I 6S-6dc",
  "1S-6bs 1X 2S-6dc 6S-6dr 1Sbb 1S-6db 1S-6dx 2S-6c1 1S-6ds aS-6e7 1Sav 1S-6dr 1S-6ed 2X 1S-6cv",
  "1S-6cs 1S-6cj 1S-6cb 1S-5yz 1S-6ct 1S-6cr 4S-6cq 1S-6co 2X 3V 8T36.37 1V pX eV xX fT2p.1b.2r",
  "1T2p.1b.37 1S-6fz 1T4w.2r 1V 1T2r.1b.33 1T2r.1b.39 1S-624 1V 1T4w.2u 1S-6g3 2S-6g4 1S-6g5",
  "1S-6g6 1S-6aw 1S-6g7 1S-6g8 1S-6g6 1S-6g7 1V 1S-6g7 1T32.33 1V 2S-6g9 3S-6ga 1S-6gb 1V",
  "2T37.31 1T38.2t.30 1T38.31 1V 1S-6ga 1V 1S-5st 1V 1S-6ge 1V 1S-6gv 1S-6di 1S-6h6 2V 1S-6h6",
  "1S-6h7 2Ss 1S-6h2 1S-6h1 1S-5et 4S-6hc 1V 1T2u.2p.3c 1S-5to 1S-5u2 1S-5u3 1S-5tr 1S5t 1V",
  "4S-6ht 1S-6hu 2S-6hr 2V 6T1d.6dg.1j 1T1d.6dg.1l 1T1d.6dg.1d.1c 1T1d.6dg.1f 1T1e.6dg.1f",
  "1T1d.6dg.1h 1T1e.6dg.1h 1T1f.6dg.1h 1T1g.6dg.1h 1T1d.6dg.1i 1T1h.6dg.1i 1T1d.6dg.1k",
  "1T1f.6dg.1k 1T1h.6dg.1k 1T1j.6dg.1k 1T1d.6dg 1S-6if 1T2x.2x 1T2x.2x.2x 1T2x.3a 1S-6i6",
  "1T3a.2x 1T3a.2x.2x 1T3a.2x.2x.2x 1T2x.3c 1S-6i9 1T3c.2x 1T3c.2x.2x 1S-6io 1S-6iy 2S-6iq",
  "1S-6iv 1T2x.2x 1T2x.2x.2x 1T2x.3a 1S-6im 1T3a.2x 1T3a.2x.2x 1T3a.2x.2x.2x 1T2x.3c 1S-6ip",
  "1T3c.2x 1T3c.2x.2x 1S-6j4 1S-6je 2S-6j6 1V 3S1 1V 5T1c.6dg.1f 1V 2X 4V 4cT6qz.6qz",
  "1T6qz.6qz.6qz 1V 1T6r2.6r2 1T6r2.6r2.6r2 1V 6wS2jj 2V 73X mV bX lS-75b 9T1d.1c 1T1d.1d",
  "1T1d.1e 1T1d.1f 1T1d.1g 1T1d.1h 1T1d.1i 1T1d.1j 1T1d.1k 1T1d.1l 1T1e.1c 1T14.1d.15",
  "1T14.1e.15 1T14.1f.15 1T14.1g.15 1T14.1h.15 1T14.1i.15 1T14.1j.15 1T14.1k.15 1T14.1l.15",
  "1T14.1d.1c.15 1T14.1d.1d.15 1T14.1d.1e.15 1T14.1d.1f.15 1T14.1d.1g.15 1T14.1d.1h.15",
  "1T14.1d.1i.15 1T14.1d.1j.15 1T14.1d.1k.15 1T14.1d.1l.15 1T14.1e.1c.15 1X kT14.2p.15",
  "1T14.2q.15 1T14.2r.15 1T14.2s.15 1T14.2t.15 1T14.2u.15 1T14.2v.15 1T14.2w.15 1T14.2x.15",
  "1T14.2y.15 1T14.2z.15 1T14.30.15 1T14.31.15 1T14.32.15 1T14.33.15 1T14.34.15 1T14.35.15",
  "1T14.36.15 1T14.37.15 1T14.38.15 1T14.39.15 1T14.3a.15 1T14.3b.15 1T14.3c.15 1T14.3d.15",
  "1T14.3e.15 1S-76d qS-773 qS-796 1V 10hT6qz.6qz.6qz.6qz 1V 2vT1m.1m.1p 1T1p.1p 1T1p.1p.1p 1V",
  "2tT8gt.mw 1V 47X 2V 3uS1c 1cV 1cS1 1V 1S-8af 1S-2xy 1S-89z 1V 2A 6S-8bg 1S-8al 1S-8bj 1S-8bi",
  "1V 1S1 1V 2S1 1V 6S-8pe 1S-8p3 1S-8cf 2A 2sV 7A 4V 3S1 1V 1X 5V 19X 1V 1X 5V 1X 2V 1kX 7S-e",
  "1V 1X eV oX 9V 7X 1V 7X 1V 7X 1V 7X 1V 7X 1V 7X 1V 7X 1V 7X 1V 3iX yV qX 1V 4Sc32 1V 2bSm98",
  "1X cS64g 1S65j 1S65w 1S664 1S66t 1S680 1S686 1S68p 1S69e 1S6ra 1S6sb 1S6sg 1S6t2 1S6tl 1S6u5",
  "1S6vl 1S6w5 1S6wf 1S70p 1S73a 1S741 1S745 1S74y 1S756 1S75w 1S768 1S76w 1S78b 1S78s 1S79i",
  "1S7uh 1S7wg 1S897 1S89t 1S8a0 1S8aa 1S8ar 1S8cu 1S8q2 1S8rd 1S8uo 1S8va 1S8vs 1S8wd 1S8xu",
  "1S8xw 1S97x 1S986 1S98h 1S98t 1S9c0 1S9c7 1S9cb 1S9fj 1S9fs 1S9g4 1S9gb 1S9hz 1S9if 1S9iw",
  "1S9l3 1Sa17 1Sa2g 1Sa30 1Sanj 1Sann 1Sapx 1Saqc 1Saqo 1Sar8 1Sasa 1Sase 1Sazs 1Sb0f 1Sb1a",
  "1Sbth 1Sbva 1Sbvw 1Sbxh 1Sby4 1Sbyc 1Sbyi 1Sbzx 1Sc01 1Sc0w 1Scuu 1Sd78 1Sd7j 1Sd7n 1Sd7q",
  "1Sd7x 1Sd8e 1Sd8f 1Sdan 1Sdgm 1Sdgq 1Sdq4 1Sdqd 1Sdrq 1Sdrw 1Sds4 1Sdsb 1Sdut 1Sduz 1Se1a",
  "1Se1g 1Se2s 1Se38 1Se4i 1Seb2 1Seb8 1Sebo 1Sekq 1Seo7 1Seoc 1Setd 1Sevr 1Sex0 1Sf7h 1Sfb5",
  "1Sfr2 1Sfrs 1Sftc 1Sfuq 1Sfwl 1Sfwv 1Sfx0 1Sfxw 1Sfzz 1Sg08 1Sg9t 1Sg9z 1Sga7 1Sgaf 1Sgau",
  "1Sgb8 1Sgbb 1Sgdh 1Sgdk 1Sgdp 1Sh4x 1Sh5q 1Shiq 1Shj1 1Shjn 1Shrh 1Shrt 1Shtr 1Shv0 1Siaq",
  "1Sib4 1Sibi 1Sicg 1Sidg 1Siiy 1Sij9 1Sil3 1Siry 1Siss 1Siyk 1Siz4 1Siz8 1Sj5b 1Sjae 1Sjdu",
  "1Sjdz 1Sje3 1Sk40 1Sk48 1Sk8j 1Skcs 1Skcu 1Ske4 1Skh0 1Skhc 1Skhf 1Skhl 1Skka 1Skl7 1Sklc",
  "1Sklp 1Skqb 1Skrp 1Skrs 1Skwu 1Skww 1Skxe 1Sl4d 1Sl5o 1Sl5u 1Sl7r 1Sl80 1Sl82 1Sl8b 1Sl94",
  "1Slk2 1Slv5 1Slve 1Slwf 1Slx0 1Slx7 1Slxg 1Slxj 1Slym 1Slyp 1Slz5 1Slz9 1Slzl 1Sm0b 1Sm0p",
  "1Sm0w 1Sm2i 1Sm2w 1Sm2z 1X 16S-9gg 1V 1S-9g4 1V 1fS-10 1V 1S6x5 1S6x7 2V 5X 1V 2eX 2V",
  "2Tw.9ll 1Tw.9lm 1V 2T9l4.9l6 1V 2nT9mb.9mw 1X 5V 17X 1S-6cx 2S-689 1S-6cy 1S-689 2S-6d0",
  "3S-68a 6S-6cm 1S-6d7 3S-6cj 1S-6d8 aS-6b2 lI 1S-6dt 2S-68w 2S-68t 1S-68s 1S-68o 1S-68l",
  "1S-68k 1S-6du 1S-68i 1S-68h 1S-6dw 2S-6dv 1S-6du 2S-6dr 1S-6dq 1S-6dp 5S-6dn 1S-6dk 1S-6db",
  "1S-6d5 1S-6d1 1S-68h 2S-6ct 3S-6bn 2S-6bl 1S-6bd 2S-6bc 1S-6b3 1S-6b1 1X 1V 2S5m6 1S5q1",
  "1S5md 1S7d2 1S5mc 1S5na 1S5mb 1Sdcp 1S5of 1S5mm 1S5lx 1S7t8 1S7f6 1S5qz 1V 1yX aV",
  "gT14.3cw.15 1T14.3cy.15 1T14.3cz.15 1T14.3d1.15 1T14.3d2.15 1T14.3d3.15 1T14.3d5.15",
  "1T14.3d7.15 1T14.3d8.15 1T14.3da.15 1T14.3db.15 1T14.3dc.15 1T14.3dd.15 1T14.3de.15",
  "1T14.xz4.15 1T14.yvs.15 1T14.zc4.15 1T14.108s.15 1T14.10p4.15 1T14.115g.15 1T14.1224.15",
  "1T14.12ys.15 1T14.13f4.15 1T14.14bs.15 1T14.14s4.15 1T14.158g.15 1T14.15os.15 1T14.1654.15",
  "1T14.13p8.15 1T14.1350.13ic.15 1T14.1350.16f8.15 1X 1T14.feo.15 1T14.fik.15 1T14.fex.15",
  "1T14.h5n.15 1T14.fis.15 1T14.g31.15 1T14.fer.15 1T14.g2z.15 1T14.fh9.15 1T14.gg1.15",
  "1T14.kco.15 1T14.m7f.15 1T14.ldg.15 1T14.kdk.15 1T14.ssx.15 1T14.h7j.15 1T14.k4l.15",
  "1T14.kkq.15 1T14.kcp.15 1T14.ny6.15 1T14.glp.15 1T14.mm1.15 1T14.rs1.15 1T14.nz1.15",
  "1T14.gc4.15 1T14.fkz.15 1T14.gos.15 1T14.i1y.15 1T14.nhf.15 1T14.flt.15 1T14.rt3.15",
  "1T14.ggk.15 1T14.nzh.15 1T14.fm9.15 1T14.pnu.15 1T14.po3.15 1S6x7 1S8qf 1Sa4h 1Seh4 1V",
  "8T34.38.2t 1T1e.1d 1T1e.1e 1T1e.1f 1T1e.1g 1T1e.1h 1T1e.1i 1T1e.1j 1T1e.1k 1T1e.1l 1T1f.1c",
  "1T1f.1d 1T1f.1e 1T1f.1f 1T1f.1g 1T1f.1h 1S-6lc 1S-6lb 2S-6la 3S-6l9 1S-6l8 2S-6l7 5So0i",
  "1Sox5 1Spdg 1Sqa3 1Sqqe 1Sr6p 1Ss3c 1Sszz 1Stga 1Sucx 1Sut8 1Sv9j 1Svpu 1Sw65 1T14c8.y5c",
  "1T13p8.13dk 1St9u 1V 1S5fk 1S5jf 1S5fr 1S76g 1S5jk 1S63s 1S5fh 1S63o 1S5hx 1S6go 1Sada 1Sc80",
  "1Sbe0 1Sae3 1Sitf 1S780 1Sa51 1Sal5 1Sad3 1Sdyj 1S6m1 1Scmc 1Shsb 1Sdza 1S6cc 1Se2n 1Sd5p",
  "1S7o8 1Sij1 1S619 1S6he 1Sbih 1Sk11 1S5m8 1S647 1Sb7k 1S5eu 1S5fs 1S5et 1S8jj 1S6kr 1S6fm",
  "1S831 1S81n 1Sdh3 1S5lg 1Shsp 1S6g5 1S7l8 1T1f.1i 1T1f.1j 1T1f.1k 1T1f.1l 1T1g.1c 1T1g.1d",
  "1T1g.1e 1T1g.1f 1T1g.1g 1T1g.1h 1T1g.1i 1T1g.1j 1T1g.1k 1T1g.1l 1T1h.1c 1T1d.kco 1T1e.kco",
  "1T1f.kco 1T1g.kco 1T1h.kco 1T1i.kco 1T1j.kco 1T1k.kco 1T1l.kco 1T1d.1c.kco 1T1d.1d.kco",
  "1T1d.1e.kco 1T2w.2v 1T2t.36.2v 1T2t.3a 1T30.38.2s 1S-fi 1S-fh 1S-fg 1S-ff 1S-fe 2S-fd 1S-fc",
  "1S-fb 1S-fa 1S-f9 1S-f8 1S-f7 1S-f6 1S-f5 1S-f4 1S-f3 1S-f1 1S-f0 1S-ez 1S-ey 6S-ew 1S-eu",
  "1S-es 1S-eq 1S-eo 5S-en 1S-em 1S-el 6S-ek 4Tfl0.gp8 1T9lu.9n5.9oc.9mw 1T9lu.9nv.9n9.9lt",
  "1T9lu.9o3.9ne.9lu 1T9lu.9oc.9nv 1T9lw.9mz.9o3.9m8 1T9lw.9o3.9mp 1T9ly.9m1.9o3",
  "1T9m0.9mh.9m7.9oc.9mx 1T9m0.9oc.9m3.9oc 1T9m2.9o3.9mh 1T9m2.9oc.9nk 1T9m3.9lw.9nu",
  "1T9m3.9nt.9mr.9mw 1T9m3.9nx.9nu.9oc 1T9m4.9nx.9o3 1T9m4.9o3.9ni 1T9m6.9m4 1T9m6.9mz.9oc",
  "1T9m5.9np.9nu.9oc 1T9m6.9nv.9mo.9oc 1T9m5.9nx 1T9m5.9nx.9m8.9nt.9nk",
  "1T9m5.9nx.9nl.9oc.9mw.9nv 1T9m5.9nx.9nz.9mr.9mw 1T9m8.9nt.9nk 1T9m8.9nt.9nk.9mw.9o3",
  "1T9m7.9nv.9mk.9lw.9nx 1T9m7.9nx.9oc.9n1 1T9m9.9oc.9mh 1T9mb.9nv.9my 1T9mb.9oc.9nh",
  "1T9md.9lw.9m7.9nv 1T9md.9o3.9mp.9oc.9nk 1T9mf.9nu.9o3.9m8 1T9mj.9o3.9mp 1T9mj.9o3.9mw",
  "1T9mo.9oc.9mh 1T9mv.9mf 1T9mx.9nv 1T9mw.9o3 1T9my.9n2 1T9n2.9mr.9mw 1T9n3.9lw.9ms",
  "1T9n5.9oc.9mj.9o3.9mw 1T9n5.9oc.9ms 1T9n4.9oc.9nw.9nv 1T9n8.9lu.9mh.9mw.9nv 1T9n8.9m7.9nv",
  "1T9n8.9mb 1T9n7.9nv 1T9n9.9lt.9nt.9mr.9mx 1T9n9.9lv.9oc.9mw 1T9na.9mr.9mf.9lz.9nv",
  "1T9n9.9nt.9o3 1T9nc.9m7.9mn.9oc.9nv 1T9ne.9ml 1T9ne.9mz.9n6 1T9nc.9nv.9ms 1T9ne.9o3.9mh",
  "1T9ne.9oc.9mg 1T9nd.9oc.9mn 1T9nh.9lw.9o3.9mw 1T9ng.9nv.9mw 1T9nf.9o3 1T9nh.9o3.9mx",
  "1T9nf.9oc.9nv 1T9nf.9oc.9o3 1T9ni.9lw.9m7.9nx 1T9ni.9lw.9nv 1T9ni.9mr.9n3 1T9ni.9nv.9m7",
  "1T9ni.9o3.9mf.9nr.9o3 1T9nj.9m7.9nx.9o3 1T9nj.9nu 1T9nj.9nu.9n4.9oc.9nv 1T9nl.9m4",
  "1T9nl.9m4.9mw.9o3 1T9nl.9oc.9mw.9nv 1T9no.9oc.9mx 1T9no.9oc.9nv 1T9nq.9lu.9o3",
  "1T9nu.9mr.9mw.9nv 1T9nu.9nt 1T9nv.9n8.9oc 1T9nv.9oc.9na.9nv 1T9nw.9nk 1T9nw.9o3.9mw.9ma.9o3",
  "1T9nz.9mr.9mw 1T1c.m9l 1T1d.m9l 1T1e.m9l 1T1f.m9l 1T1g.m9l 1T1h.m9l 1T1i.m9l 1T1j.m9l",
  "1T1k.m9l 1T1l.m9l 1T1d.1c.m9l 1T1d.1d.m9l 1T1d.1e.m9l 1T1d.1f.m9l 1T1d.1g.m9l 1T1d.1h.m9l",
  "1T1d.1i.m9l 1T1d.1j.m9l 1T1d.1k.m9l 1T1d.1l.m9l 1T1e.1c.m9l 1T1e.1d.m9l 1T1e.1e.m9l",
  "1T1e.1f.m9l 1T1e.1g.m9l 1T2w.34.2p 1T2s.2p 1T2p.39 1T2q.2p.36 1T33.3a 1T34.2r 1T2s.31",
  "1T2s.31.1e 1T2s.31.1f 1T2x.39 1Tinn.jdc 1Tk6l.gp8 1Thlz.l7n 1Tk5q.lh7 1Tkkq.irz.fmi.ny6",
  "1T34.2p 1T32.2p 1Tqk.2p 1T31.2p 1T2z.2p 1T2z.2q 1T31.2q 1T2v.2q 1T2r.2p.30 1T2z.2r.2p.30",
  "1T34.2u 1T32.2u 1Tqk.2u 1Tqk.2v 1T31.2v 1T2z.2v 1T2w.3e 1T2z.2w.3e 1T31.2w.3e 1T2v.2w.3e",
  "1T38.2w.3e 1Tqk.30 1T31.30 1T2s.30 1T2z.30 1T2u.31 1T32.31 1Tqk.31 1T31.31 1T2r.31 1T2z.31",
  "1T31.31.1e 1T2r.31.1e 1T31.1e 1T2z.31.1e 1T31.31.1f 1T2r.31.1f 1T31.1f 1T2z.31.1f",
  "1T31.6qd.37 1T31.6qd.37.1e 1T34.2p 1T2z.34.2p 1T31.34.2p 1T2v.34.2p 1T36.2p.2s",
  "1T36.2p.2s.6qd.37 1T36.2p.2s.6qd.37.1e 1T34.37 1T32.37 1Tqk.37 1T31.37 1T34.3a 1T32.3a",
  "1Tqk.3a 1T31.3a 1T2z.3a 1T31.3a 1T34.3b 1T32.3b 1Tqk.3b 1T31.3b 1T2z.3b 1T31.3b 1T2z.qx",
  "1T31.qx 1X 1T2q.35 1T2r.2r 1T2r.2s 1T2r.6qd.2z.2v 1X 1T2s.2q 1T2v.3d 1T2w.2p 1T2w.34 1T2x.32",
  "1T2z.2z 1T2z.31 1T2z.38 1T30.31 1T30.32 1T30.33.2v 1T30.3c 1T31.2q 1T31.2x.30 1T31.33.30",
  "1T34.2w 1X 1T34.34.31 1T34.36 1T37.36 1T37.3a 1T3b.2q 1T3a.6qd.31 1T2p.6qd.31 1T1d.k4l",
  "1T1e.k4l 1T1f.k4l 1T1g.k4l 1T1h.k4l 1T1i.k4l 1T1j.k4l 1T1k.k4l 1T1l.k4l 1T1d.1c.k4l",
  "1T1d.1d.k4l 1T1d.1e.k4l 1T1d.1f.k4l 1T1d.1g.k4l 1T1d.1h.k4l 1T1d.1i.k4l 1T1d.1j.k4l",
  "1T1d.1k.k4l 1T1d.1l.k4l 1T1e.1c.k4l 1T1e.1d.k4l 1T1e.1e.k4l 1T1e.1f.k4l 1T1e.1g.k4l",
  "1T1e.1h.k4l 1T1e.1i.k4l 1T1e.1j.k4l 1T1e.1k.k4l 1T1e.1l.k4l 1T1f.1c.k4l 1T1f.1d.k4l",
  "1T2v.2p.30 1V m8dX 3V 1jX 9V 9oX kA 1aV iA sS-w2a 1S-w29 1V 2iX 8V yA eV 2A 1qS-1 1V 8A",
  "4S-r9g 1A aV 3S1 1V 1S-wmg 1V 2A 4V 2A kS-wn8 1S-wnj 1S-wnf 1S-wn5 1S-wn8 1V 1S-wlu 1S-wmi",
  "1S-wlx 1Sps 1A gS-1c 1S-wn7 1S-raw 1A 4S-wo7 1A gS-wu9 1X kS-x32 1S-x3j 1S-x3h 1S-x37 1S1 1V",
  "2S-wy9 1S-wx2 1V 1fX 3V aX 6V 1kX 8V 1yX 8V cX 6V 38X bV uX 3V 26X 1V bX 4V xX 1V 1jX 9V eX",
  "2V aX 2V 2vX oV sX aV 6X 2V 6X 2V 6X 9V 7X 1V 7X 1V 18S-tx 1S-12 1S-xdf 1S-d 1V 9S-xcs 1V 2X",
  "4S-tzk 28V 1aX 2V aX 6V 8mcX cV nX 4V 1dX 6isS-lh4 1S-sul 1S-kzc 1S-ldn 1S-rar 1S-xqr 1S-wm9",
  "1S-hnv 1S-hnw 1S-vjs 1S-ke1 1S-was 1S-vk4 1S-tuf 1S-pt1 1S-o0a 1S-moh 1S-mdz 1S-m56 1S-kn8",
  "1S-s9e 1S-rne 1S-qwt 1S-qbd 1S-n2z 1S-khb 1S-isp 1S-xp5 1S-wpz 1S-s2h 1S-qo3 1S-mpe 1S-hz6",
  "1S-us1 1S-r3r 1S-ms6 1S-m2o 1S-tp8 1S-nke 1S-mbs 1S-uhq 1S-suq 1S-rls 1S-qi7 1S-km6 1S-xif",
  "1S-x2v 1S-wup 1S-tbg 1S-s4e 1S-qoy 1S-pqk 1S-nxv 1S-mr3 1S-moq 1S-l6w 1S-jd2 1S-iiy 1S-i0w",
  "1S-pf3 1S-p8d 1S-of1 1S-n79 1S-k6z 1S-hxd 1S-lt7 1S-voj 1S-ugv 1S-oo4 1S-nuv 1S-qn8 1S-pdp",
  "1S-lfq 1S-jf6 1S-voy 1S-uzt 1S-sah 1S-rjn 1S-rb3 1S-oio 1S-obd 1S-jk6 1S-ww0 1S-nuw 1S-x2w",
  "1S-x3d 1S-p4q 1S-oex 1S-n6v 1S-jj8 1S-lp6 1S-tqk 1S-sbe 1S-lsv 1S-xt1 1S-v3s 1S-ua6 1S-qfu",
  "1S-q2a 1S-wuk 1S-pd5 1S-xie 1S-ud9 1S-xui 1S-rrw 1S-t81 1S-ojs 1S-wq0 1S-vta 1S-prg 1S-n51",
  "1S-lvp 1S-rzq 1S-kw1 1S-ru2 1S-tpx 1S-nf3 1S-tlh 1S-q35 1S-xqh 1S-x73 1S-x4g 1S-smx 1S-olw",
  "1S-nil 1S-luz 1S-khb 1S-wwa 1S-wn2 1S-vm6 1S-uja 1S-t6m 1S-r5y 1S-pcr 1S-jq1 1S-isd 1S-hyp",
  "1S-hx7 1S-wz3 1S-szp 1S-s2d 1S-kyz 1S-umy 1S-u0v 1S-txs 1S-tfb 1S-rcf 1S-qx6 1S-qa3 1S-p8r",
  "1S-of6 1S-nxk 1S-l0y 1S-n1n 1S-ktz 1S-k7l 1S-x39 1S-wze 1S-wkh 1S-r13 1S-mam 1S-lx3 1S-ul5",
  "1S-ucu 1S-tnt 1S-s1j 1S-ors 1S-qia 1S-xqc 1S-w4w 1S-v5v 1S-usx 1S-uc0 1S-qgr 1S-qbp 1S-o45",
  "1S-nze 1S-kfx 1S-ji4 1S-jfv 1S-ja4 1S-xm2 1S-pag 1S-kjn 1S-jk0 1S-u6w 1S-xtg 1S-xcx 1S-v66",
  "1S-v3y 1S-t9h 1S-se5 1S-quq 1S-pz3 1S-n2e 1S-ksn 1S-htj 1S-t31 1S-jo8 1S-x1a 1S-swd 1S-st2",
  "1S-rrd 1S-rhr 1S-qf7 1S-q5w 1S-pk3 1S-on3 1S-j8y 1S-x9g 1S-tyc 1S-jmj 1S-xih 1S-uyk 1S-rn0",
  "1S-l2l 1S-uh9 1S-u51 1S-ssj 1S-qj8 1S-jme 1S-x4k 1S-wr3 1S-v3u 1S-t71 1S-syb 1S-soq 1S-rum",
  "1S-qfy 1S-q2r 1S-o6l 1S-mc8 1S-mbr 1S-kkd 1S-jk8 1S-wx8 1S-rhu 1S-wr4 1S-qvy 1S-qc7 1S-mwm",
  "1S-jm6 1S-ihn 1S-i1g 1S-swt 1S-roq 1S-npq 1S-p4c 1S-p20 1S-orr 1S-qpm 1S-r4y 1S-lus 1S-xtp",
  "1S-ngo 1S-x51 1S-x6h 1S-uor 1S-tv3 1S-oq5 1S-vb3 1S-rtz 1S-t3m 1S-l3g 1S-mgs 1S-jp8 1S-m7z",
  "1S-uns 1S-xcc 1S-wgd 1V 2S-vxy 1V 1S-t5q 1V 2S-x87 1S-qng 1S-pxp 1S-pgc 1S-pff 1S-pf9 1S-pe4",
  "1S-jie 1S-orj 1S-o69 1V 1S-mxa 1V 1S-lyi 1V 2S-kx9 1S-krt 1V 3S-j7f 1S-j73 1S-j5w 1S-i9l",
  "1S-ksw 1S-jnc 1S-xoi 1S-xfu 1S-xd1 1S-x2i 1S-x1s 1S-wys 1S-wih 1S-wfl 1S-wcw 1S-vzt 1S-vwy",
  "1S-v6f 1S-v66 1S-ucp 1S-u6u 1S-u5t 1S-u32 1S-tf6 1S-tb4 1S-t6a 1S-ssf 1S-rta 1S-ros 1S-rhh",
  "1S-r16 1S-qvy 1S-qi0 1S-pmi 1S-phq 1S-phg 1S-phi 1S-phb 1S-ph6 1S-ph0 1S-pfp 2S-pas 1S-p90",
  "1S-p06 1S-okj 1S-ojz 1S-oig 1S-oa0 1S-o5y 1S-nsf 1S-nok 1S-nol 1S-nbc 1S-mds 1S-ma3 1S-m01",
  "1S-lyi 1S-ln5 1S-llp 1S-l2o 1S-kz3 1S-jnp 1S-jfu 1S-je7 1S-ueu 1S1sw2 1S-nrp 1X 2S-y16",
  "1S-xbw 1S-xe2 1S-xrn 1S-xf3 1S-xdh 1S-x4f 1S-x31 1S-wkb 1S-wmc 1S-wkh 1S-wih 1S-w0y 1S-vyi",
  "1S-vui 1S-vu3 1S-vmm 1S-vh5 1S-ur4 1S-uqy 1S-umz 1S-ul4 1S-ucu 1S-u9l 1S-ubk 1S-u7v 1S-u96",
  "1S-u55 1S-u3c 1S-ts9 1S-tpu 1S-tod 1S-th6 1S-t99 1S-t4r 1S-t4o 1S-t32 1S-s9o 1S-s7w 1S-rx2",
  "1S-rlp 1S-rm6 1S-rjs 1S-rct 1S-r3i 1S-pva 1S-qy1 1S-quo 1S-qra 1S-qi8 1S-qe4 1S-qco 1S-q6f",
  "1S-q6e 1S-q1o 1S-q18 1S-q0k 1S-py7 1S-pyi 1S-pnj 1S-pa3 1S-p2l 1S-oxf 1S-or8 1S-on0 1S-odv",
  "1S-o8d 1S-nkx 1S-ngl 1S-mrg 1S-met 1S-mcx 1S-mci 1S-m4a 1S-m2q 1S-m40 1S-m2j 1S-m2n 1S-m35",
  "1S-m12 1S-lyu 1S-lo9 1S-l8q 1S-l01 1S-krv 1S-klr 1S-jt6 1S-jqc 1S-jn6 1S-jji 1S-jij 1S-ji8",
  "1S-jgx 1S-iwr 1S-i0i 1S1njv 1S1njo 1S1ptw 1S-11rp 1S-10vv 1S-10uz 1S1vuc 1S1xx6 1S24n0",
  "1S-i39 1S-i17 1X 12T2u.2u 1T2u.2x 1T2u.30 1T2u.2u.2x 1T2u.2u.30 1T37.38 2X cT12s.12u",
  "1T12s.12d 1T12s.12j 1T132.12u 1T12s.12l 1X 5T15l.14k 1V 1T16a.14n 1S-1cfy 1S-1cgh 1S-1cgf",
  "2S-1cg9 3S-1cfz 1S-1cfy 1S-1dku 1T161.14x 1T161.14y 1T161.14s.14x 1T161.14s.14y 1T15c.14n",
  "1T15c.14o 1T15c.14s 1T15d.14s 1T15e.14s 1T15f.14s 1T15g.14s 1T15h.14s 1T15i.14s 1X 1T15k.14s",
  "1T15l.14s 1T15m.14s 1T15n.14s 1T15o.14s 1X 1T15q.14s 1X 1T15s.14s 1T15t.14s 1X 1T15v.14s",
  "1T15w.14s 1X 1T15y.14s 1T15z.14s 1T160.14s 1T161.14s 1T162.14s 1T15h.14p 1T15d.14v 1T15n.14v",
  "1T15w.14v 1T15c.15o 1S-1cdb 1S-1cdc 1S-1cd3 1S-1cd4 1S-1cd5 1S-1cd6 1S-1cd4 1S-1cd5 1S-1cd6",
  "1S-1cd7 1S-1cd6 1S-1cd7 1S-1cd8 1S-1cd9 1S-1cdg 1S-1cdh 1S-1cdi 1S-1cdj 1S-1cdf 1S-1cdg",
  "1S-1cdh 1S-1cdi 1S-1cdp 1S-1cdq 1S-1cdr 1S-1cds 1S-1ccm 1S-1ccn 1S-1cco 1S-1ccp 1S-1cco",
  "1S-1ccp 1S-1ccq 1S-1ccr 1S-1cdq 1S-1cdr 1S-1cds 1S-1cdt 1S-1cdv 1S-1cdw 1S-1cdx 1S-1cdy",
  "1S-1cdw 1S-1cdx 1S-1cdy 1S-1cdz 2S-1ce0 1S-1ce1 1S-1ce2 1S-1cdx 1S-1cdy 1S-1ce0 1S-1ce1",
  "1S-1ce0 1S-1ce1 1S-1ce8 1S-1ce9 1S-1cdu 1S-1cdv 1S-1ce3 1S-1ce4 1S-1cdh 1S-1cdi 1S-1cdj",
  "1S-1cdk 1S-1cdf 1S-1cdg 1S-1cdh 1S-1cdi 1S-1cdf 1S-1cdg 1S-1cdh 1S-1cdi 1S-1cdl 1S-1cdm",
  "1S-1cdn 1S-1cdo 1S-1cdg 1S-1cdh 2S-1cdi 1S-1cdj 1S-1cdk 1S-1cdg 1S-1cdh 2S-1cdi 1S-1cdj",
  "1S-1cdk 1S-1cdo 1S-1cdp 1S-1cdq 1S-1cdr 1S-1cd8 1S-1cd9 2S-1cda 1V xS-1cfa 1S-1cfb 1S-1cfc",
  "1S-1cfd 1S-1ceo 1S-1cep 1S-1cer 1S-1ces 1S-1cer 1S-1ces 1T1c7.19w 1S-1cer 1S-1ces 1S-1cez",
  "1S-1cf0 1S-1cex 1S-1cey 1S-1ces 1S-1cet 1S-1ceu 1S-1cev 1S-1cin 1S-1cio 1T17q.17r 2T17q.1cl",
  "2T17q.18o 2T17q.1c7 2T17q.1c6 2T17q.1c8 2T17q.1cg 3T17q.18p 3S-1cfk 1S-1cfl 1S-1cfm 1S-1cfn",
  "1T17q.17w 1T17q.17x 1T17q.18l 1T17q.18p 1T17q.18q 1T17s.17w 1T17s.17x 1T17s.17y 1T17s.18l",
  "1T17s.18p 1T17s.18q 1T17u.17w 1T17u.17x 1T17u.17y 1T17u.18l 1T17u.18p 1T17u.18q 1T17v.17w",
  "1T17v.18l 1T17v.18p 1T17v.18q 1T17w.17x 1T17w.18l 1T17x.17w 1T17x.18l 1T17y.17w 1T17y.17x",
  "1T17y.18l 1T183.17w 1T183.17x 1T183.17y 1T183.18l 1T185.17x 1T185.18l 1T186.17w 1T186.17x",
  "1T186.17y 1T186.18l 1T187.17x 1T187.18l 1T188.18l 1T189.17w 1T189.18l 1T18a.17w 1T18a.18l",
  "1T18h.17w 1T18h.17x 1T18h.17y 1T18h.18l 1T18h.18p 1T18h.18q 1T18i.17x 1T18i.18l 1T18i.18p",
  "1T18i.18q 1T18j.17r 1T18j.17w 1T18j.17x 1T18j.17y 1T18j.18k 1T18j.18l 1T18j.18p 1T18j.18q",
  "1T18k.17w 1T18k.17x 1T18k.17y 1T18k.18l 1T18k.18p 1T18k.18q 1T18l.17w 1T18l.17x 1T18l.17y",
  "1T18l.18l 1T18l.18p 1T18l.18q 1T18m.17w 1T18m.17x 1T18m.17y 1T18m.18l 1T18m.18p 1T18m.18q",
  "1T18n.17w 1T18n.18l 1T18n.18p 1T18n.18q 1T18q.17w 1T18q.17x 1T18q.17y 1T18q.18l 1T18q.18p",
  "1T18q.18q 1T180.19s 1T181.19s 1T18p.19s 1Tw.18s.18x 1Tw.18t.18x 1Tw.18u.18x 1Tw.18v.18x",
  "1Tw.18w.18x 1Tw.18x.19s 1T17q.181 1T17q.182 1T17q.18l 1T17q.18m 1T17q.18p 1T17q.18q",
  "1T17s.181 1T17s.182 1T17s.18l 1T17s.18m 1T17s.18p 1T17s.18q 1T17u.181 1T17u.182 1T17u.18l",
  "1T17u.18m 1T17u.18p 1T17u.18q 1T17v.181 1T17v.182 1T17v.18l 1T17v.18m 1T17v.18p 1T17v.18q",
  "1T18h.18p 1T18h.18q 1T18i.18p 1T18i.18q 1T18j.17r 1T18j.18k 1T18j.18l 1T18j.18p 1T18j.18q",
  "1T18k.18l 1T18k.18p 1T18k.18q 1T18l.17r 1T18l.18l 1T18m.181 1T18m.182 1T18m.18l 1T18m.18m",
  "1T18m.18p 1T18m.18q 1T18p.19s 1T18q.181 1T18q.182 1T18q.18l 1T18q.18m 1T18q.18p 1T18q.18q",
  "1T17q.17w 1T17q.17x 1T17q.17y 1T17q.18l 1T17q.18n 1T17s.17w 1T17s.17x 1T17s.17y 1T17s.18l",
  "1T17s.18n 1T17u.17w 1T17u.17x 1T17u.17y 1T17u.18l 1T17u.18n 1T17v.18l 1T17w.17x 1T17w.18l",
  "1T17x.17w 1T17x.18l 1T17y.17w 1T17y.18l 1T183.17w 1T183.17x 1T183.17y 1T183.18l 1T185.17x",
  "1T185.17y 1T185.18l 1T186.17w 1T186.17x 1T186.17y 1T186.18l 1T187.17x 1T188.18l 1T189.17w",
  "1T189.18l 1T18a.17w 1T18a.18l 1T18h.17w 1T18h.17x 1T18h.17y 1T18h.18l 1T18i.17x 1T18i.18l",
  "1T18j.17w 1T18j.17x 1T18j.17y 1T18j.18k 1T18j.18l 1T18k.17w 1T18k.17x 1T18k.17y 1T18k.18l",
  "1T18k.18n 1T18l.17w 1T18l.17x 1T18l.17y 1T18l.18l 1T18m.17w 1T18m.17x 1T18m.17y 1T18m.18l",
  "1T18m.18n 1T18n.17w 1T18n.18l 1T18n.19s 1T18q.17w 1T18q.17x 1T18q.17y 1T18q.18l 1T18q.18n",
  "1T17q.18l 1T17q.18n 1T17s.18l 1T17s.18n 1T17u.18l 1T17u.18n 1T17v.18l 1T17v.18n 1T183.18l",
  "1T183.18n 1T184.18l 1T184.18n 1T18j.18k 1T18j.18l 1T18k.18l 1T18m.18l 1T18m.18n 1T18q.18l",
  "1T18q.18n 1T18g.18u.18x 1T18g.18v.18x 1T18g.18w.18x 1T187.18p 1T187.18q 1T189.18p 1T189.18q",
  "1T18a.18p 1T18a.18q 1T183.18p 1T183.18q 1T184.18p 1T184.18q 1T17x.18p 1T17x.18q 1T17w.18p",
  "1T17w.18q 1T17y.18p 1T17y.18q 1T185.18p 1T185.18q 1T186.18p 1T186.18q 1T184.17w 1T184.17x",
  "1T184.17y 1T184.18l 1T184.181 1T183.181 1T185.181 1T186.181 1T187.18p 1T187.18q 1T189.18p",
  "1T189.18q 1T18a.18p 1T18a.18q 1T183.18p 1T183.18q 1T184.18p 1T184.18q 1T17x.18p 1T17x.18q",
  "1T17w.18p 1T17w.18q 1T17y.18p 1T17y.18q 1T185.18p 1T185.18q 1T186.18p 1T186.18q 1T184.17w",
  "1T184.17x 1T184.17y 1T184.18l 1T184.181 1T183.181 1T185.181 1T186.181 1T184.17w 1T184.17x",
  "1T184.17y 1T184.18l 1T183.18n 1T184.18n 1T187.18l 1T183.17w 1T183.17x 1T183.17y 1T184.17w",
  "1T184.17x 1T184.17y 1T187.18l 1T188.18l 1T17r.18r 2V iT17u.17w.18l 1T17u.17x.17w",
  "2T17u.17x.18l 1T17u.17y.18l 1T17u.18l.17w 1T17u.18l.17x 1T17u.18l.17y 1T17w.18l.17x",
  "2T17x.18l.18q 1T17x.18l.18p 1T183.17x.17w 1T183.17w.17x 1T183.17w.18p 1T183.18l.17x",
  "2T183.18l.17w 1T183.18l.18l 2T185.17x.17x 2T185.18l.18l 1T184.17x.18l 2T184.17w.18q",
  "1T184.18l.17y 2T184.18l.18l 2T186.17x.18p 1T186.17y.18l 2T187.18l.17x 2T187.18l.18l",
  "1T187.18l.18q 1T189.17w.18l 1T189.18l.18l 2T189.18l.18p 1T18a.18l.18l 1T18a.18l.18q",
  "1T18a.18l.18p 1T18h.17y.18l 2T18i.18l.17x 1T18i.18l.18l 1T18k.17x.18l 1T18k.17x.18q",
  "1T18k.17x.18p 1T18k.17w.17w 2T18k.17y.18l 2T18k.18l.17x 2T18l.17x.17w 1T18l.17x.18l",
  "1T18l.17x.18q 1T18l.17w.17x 1T18l.17w.18l 1T18l.17y.17w 1T18l.17y.18l 1V 2T18l.17w.17y",
  "1T18n.18l.17w 1T18n.18l.18l 1T18m.17x.18l 1T18m.17x.18p 1T18m.17w.18l 2T18m.17w.18p",
  "1T18m.18l.18q 1T18m.18l.18p 1T18q.18l.18l 2T17s.17y.18q 1T17u.17w.18q 1T17u.17w.18p",
  "1T17u.17y.18q 1T17u.17y.18p 1T17u.18l.18q 1T17u.18l.18p 1T17w.18l.18q 1T17w.17x.18p",
  "1T17w.18l.18p 1T183.17y.18p 1T185.17x.18q 1T184.17x.18q 1T186.17x.18q 1T18k.17w.18q",
  "1T18k.18l.18q 1T18q.17x.18q 1T18q.17w.18q 1T18q.18l.18q 1T18l.18l.18q 1T18i.18l.18q",
  "1T18m.17x.18q 1T18i.18l.17x 1T18k.17x.18l 1T189.18l.18q 1T18j.18l.18q 1T18m.17w.17x",
  "1T18l.17y.18q 1T18k.17w.18l 1T18j.18l.18l 1T18k.17w.18l 1T18m.17w.17x 1T17w.17x.18q",
  "1T17x.17w.18q 1T18l.17w.18q 1T18h.18l.18q 1T17s.17x.18q 1T18j.18l.18l 1T189.17w.18l",
  "1T185.18l.18l 1T183.17y.18q 1T18m.17w.18q 1V 8X wT185.18k.1ci 1T18i.18k.1ci",
  "1T17r.18k.18k.18n 1T17r.18j.17s.181 1T18l.17x.18l.17z 1T185.18k.189.18l 1T181.183.18o.18k",
  "1T189.18k.18q.18n 1T18o.183.18k.18l 1T185.18k.18p",
  "1T185.18k.18p.w.17r.18k.18k.18n.w.189.18k.18q.18n.w.18o.183.18k.18l",
  "1T17w.18k.w.17w.18k.17r.18k.18n 1T181.1cc.17r.18k 1V 3I gS-1e5g 1S-14pc 1X 1S-1e55 2S-1e5w",
  "1S-1e53 1S-14ox 2X 7V gX 1S-17vh 1S-17vj 1S-1e50 1S-1e51 1S-1e6l 2S-1e4c 1S-1e4b 1S-14px",
  "2S-14q3 2S-14qb 2S-14qf 2S-14qd 4V 2S-1e5o 1S-1e5n 1Tw.lh 4S-1e5q 1S-1e5r 1S-1e5s 1S-1e78",
  "1S-14r4 1X 2S-1e6x 1S-1e6z 1S-1e6v 1S-1e7q 1S-17wk 1S-1e7l 2S-1e5c 1S-1e5b 1S-14qx 2S-1e7w",
  "1S-1e7u 1S-1e7r 2S-1e7q 1S-1e7c 1S-1e7b 1S-1e7d 1X 1S-1e6k 1S-1e85 2S-1e7f 1X 4Tw.18r",
  "1T18g.18r 1Tw.18s 1V 1Tw.18t 1X 1Tw.18u 1T18g.18u 1Tw.18v 1T18g.18v 1Tw.18w 1T18g.18w",
  "1Tw.18x 1T18g.18x 1Tw.18y 1T18g.18y 1S-1d27 2S-1d28 2S-1d29 2S-1d2a 2S-1d2b 2S-1d2c 1S-1d2d",
  "1S-1d2e 2S-1d2f 2S-1d2g 1S-1d2h 1S-1d2i 2S-1d2j 2S-1d2k 1S-1d2l 1S-1d2m 2S-1d2n 1S-1d2o",
  "1S-1d2p 2S-1d2q 1S-1d2r 1S-1d2s 2S-1d2t 1S-1d2u 1S-1d2v 2S-1d2w 1S-1d2x 1S-1d2y 2S-1d2z",
  "2S-1d30 2S-1d31 2S-1d32 2S-1d33 1S-1d34 1S-1d35 2S-1d36 1S-1d37 1S-1d38 2S-1d39 1S-1d3a",
  "1S-1d3b 2S-1d3c 1S-1d3d 1S-1d3e 2S-1d3f 1S-1d3g 1S-1d3h 2S-1d3i 1S-1d3j 1S-1d3k 2S-1d3l",
  "1S-1d3m 1S-1d3n 2S-1d3o 1S-1d3p 1S-1d3q 1S-1d3k 1S-1d3l 1S-1d3m 1S-1d3n 2S-1d3o 1S-1d3p",
  "1S-1d3q 2S-1d3r 1S-1d3s 1S-1d3t 2S-1d3u 1S-1d3v 1S-1d3w 2S-1d3x 1S-1d3y 1S-1d3z 2S-1d40",
  "1S-1d41 1S-1d42 2S-1d43 1S-1d44 1S-1d45 2S-1d46 2S-1d47 2S-1d48 1S-1d49 1S-1d4a 1T18k.17m",
  "2T18k.17n 2T18k.17p 2T18k.17r 2X 2I 1X 1S-1ecg wS-1ebk qS-1ecg 10S-168q 2S-1eer 1S-14ye",
  "2S-14yr 1S-14ru 1S-14s4 1S-14ue 1S-14ud 1S-14uc 1S-14ub 1S-14ua 1S-14sp 1S-14so 1S-14sn",
  "1S-14to 1S-14s4 1S-14un 1S-14um 1S-14ul 1S-14uk 1S-14uj 2S-14ui 1S-14uh 1S-14ug 1S-14uf",
  "1S-14ue 1S-14ud 1S-14uc 1S-14ub 1S-14ua 1S-14u9 1S-14u8 1S-14u6 1S-14u5 1S-14u4 1S-14u3",
  "6S-14u1 1S-14tz 1S-14tx 1S-14tv 1S-14tt 5S-14ts 1S-14tr 1S-14tq 6S-14tp 1S-14tm 1S-14w5 2I",
  "1S-1b4x 2S-1b09 1S-1b4y 1S-1b09 2S-1b50 3S-1b0a 6S-1b4m 1S-1b57 3S-1b4j 1S-1b58 aX 3S-1b35",
  "6X 2S-1b37 6X 2S-1b39 6X 2S-1b3b 3X 3S-1ef2 2S-1eeu 1Tw.lg 1S-1ef2 1S-1ef4 1S-183h 1X",
  "1S-178m 1S-17x5 4S-174d 1S-1737 1X hV cX 1V qX 1V jX 1V 2X 1V fX 2V eX yV 3fX 5V 3X 4V 19X",
  "3V 2gX 1V dX 3V 1X 1bV 1aX 3mV tX 3V 1dX fV sX 4V 10X 9V uX 5V 17X 5V uX 1V 11X 4V eX 16S14",
  "14V 3aX 2V aX 6S14 10X 4V 10X 4V 14X 8V 1gX bV 1S13 bX 1S13 fX 1S13 7X 1S13 2X 1V bX 1V fX",
  "1V 7X 1V 2X 3V 1gX cV 8nX 9V mX aV 8X oV 1S-1fht 2S-1fvh 1S-1fjf 1S-1fle 1X 1S-1fj8 1S-i76",
  "1S-1fj8 1S-1fja 1S-1flh 2S-1a7w 1S-1fli 1S-1fld 1S-1fjb 1S-1fl9 1S-1flc 1S-1flf 1S-1fjt",
  "1S-1fu6 1S-1fju 1S-1flc 1S-1fkk 1S-1fjj 2S-1flb 1S16js 1S-iz3 1S-1flc 1S16jq 1S-1fki 1S16jp",
  "1S-1fvu 1S-1fl9 2S-1fzo 1S-1fl8 1S16jl 1S-1fl7 2S-1fl6 1S-1fk3 1S-1fk6 1S-i86 1S-1fk7",
  "1S-1fl3 1S-17b3 1X 1S-1fkz 1S-1fki 2S-1fkt 1S-1fqu 3S16j5 1S16jo 1X 1xV 6X 2V 1X 1V 18X 1V",
  "2X 3V 1X 2V nX 1V 20X 8V 9X 1cV jX 1V 2X 5V xX 3V rX 5V rX 12V 1kX 4V kX 2V 1eX 1V 2X 5V 8X",
  "1V 3X 1V tX 2V 3X 4V aX 7V 9X 7V 1sX wV 13X 4V cX 9V 1iX 3V tX 2V rX 5V qX 7V 4X cV 7X 28V",
  "21X 1jS1s 1fX dV 1fX 7V 1aX 8V aX 6V gSw mX 3V tX 8V 2X 5sV vX 1V 16X 1V 3X 2V 2X gV 6X 8V",
  "9X xV 1aX 8V 16X mV qX 12V sX kV nX 9V 26X 4V 10X 9V 1qX 1V 5X dV pX 7V aX 6V 1hX 1V iX 8V",
  "13X 9V 2oX 1V kX bV iX 1V 1bX 1qV 7X 1V 1X 1V 4X 1V fX 1V bX 6V 1nX 5V aX 6V 4X 1V 8X 2V 2X",
  "2V mX 1V 7X 1V 2X 1V 5X 1V aX 2V 2X 2V 3X 2V 1X 6V 1X 5V 7X 2V 7X 3V 5X bV aX 1V 1X 2V 1X 1V",
  "12X 1V aX 1V 1X 2V 1X 1V 4X 1V aX 1V 2X 8V 2X tV 2kX 1V 5X uV 20X 8V aX 4mV 1iX 2V 12X yV",
  "1xX bV aX 6V dX jV 1mX 6V aX 6V kX sV rX 2V fX 4V nX 55V 1oX 2sSw wV 1fX cV 8X 2V 1X 2V 8X",
  "1V 2X 1V uX 1V 2X 2V cX 9V aX 1yV 8X 2V 1aX 2V bX rV 20X 8V 2bX dV 21X 7V aX 2eV 8X 2gV yX",
  "eV aX 6V 9X 1V 19X 1V eX aV tX 3V wX 2V mX 1V eX 21V 7X 1V 2X 1V 18X 3V 1X 1V 2X 1V 9X 8V aX",
  "6V 6X 1V 2X 1V 11X 1V 2X 1V 6X 7V aX 6V 18X 4V aX 6uV pX 7V hX 1V 15X 3V tX 2dV 1X fV 1eX dV",
  "pnX 2uV 33X 1V 5X bV 5gX 218V 2rX dV tsX gV mX aV 32zX 5V g7X 5a1V 1mX 1c6V ftX 7V vX 1V aX",
  "4V 29X 1V aX 6V uX 2V 6X aV 1yX aV aX 1V 7X 1V lX 5V jX c0V 1mX 5iSw wV 1nX 5Sr pX 2V pX 18V",
  "23X 4V 1lX 7V hX 1sV 5X bV 7X 9V 5p2X 15V wX 2pV 37X 6ppV 4X 1V 7X 1V 2X 1V 83X fV 1X tV 3X",
  "2V 1X eV 4X 8V b0X 1s4V 2zX 5V dX 3V 9X 7V aX 2V 4I 4X 318V 5yS-2iyd qS-2j0g aV 3X 3V c4X 6V",
  "nX fV hX fV 1aX 2V nX 9V 38X 1oV 6uX aV 13X 2V 1hT2jx3.2jxh 1T2jx4.2jxh 1T2jx4.2jxh.2jxq",
  "1T2jx4.2jxh.2jxr 1T2jx4.2jxh.2jxs 1T2jx4.2jxh.2jxt 1T2jx4.2jxh.2jxu 1V eI 8V 1sT2jzt.2jxh",
  "1T2jzu.2jxh 1T2jzt.2jxh.2jxq 1T2jzu.2jxh.2jxq 1T2jzt.2jxh.2jxr 1T2jzu.2jxh.2jxr 1V 16X lV",
  "1yX 3eV kX cV kX cV 2fX 9V pX 3rS-2kdb qS-2ke1 qS-2ker qS-2kfh 7X 1S-2kfh iS-2kg7 qS-2kgx",
  "qS-2khn 1X 1S-2khn 2X 2S-2khn 1X 2S-2khn 2X 2S-2khn 4X 1S-2khn 8S-2kid 4X 1S-2kid 1X 1S-2kid",
  "7X 1S-2kid bS-2kj3 qS-2kjt qS-2kkj 2X 1S-2kkj 4X 2S-2kkj 8X 1S-2kkj 7X 1S-2kl9 qS-2klz 2X",
  "1S-2klz 4X 1S-2klz 5X 1S-2klz 1X 3S-2klz 7X 1S-2kmp qS-2knf qS-2ko5 qS-2kov qS-2kpl qS-2kqb",
  "qS-2kr1 qS-2krr qS-2ksh qS-2kt7 qS-2ktx qS-2kun qS-2kvd qS-2kqb 1S-2kj2 1X 2S-2k8n hS-2k8x",
  "1S-2k8n 7S-2e9m 1S-2k9d hS-2k9c 1S-2k9d 7S-2eah 1S-2k9z 1S-2k9x 1S-2k9w 1S-2k9l 1S-2k9r",
  "1S-2k9t 1S-2ka9 hS-2kaj 1S-2ka9 7S-2eb8 1S-2kaz hS-2kay 1S-2kaz 7S-2ec3 1S-2kbl 1S-2kbj",
  "1S-2kbi 1S-2kb7 1S-2kbd 1S-2kbf 1S-2kbv hS-2kc5 1S-2kbv 7S-2ecu 1S-2kcl hS-2kck 1S-2kcl",
  "7S-2edp 1S-2kd7 1S-2kd5 1S-2kd4 1S-2kct 1S-2kcz 1S-2kd1 1S-2kdh hS-2kdr 1S-2kdh 7S-2eeg",
  "1S-2ke7 hS-2ke6 1S-2ke7 7S-2efb 1S-2ket 1S-2ker 1S-2keq 1S-2kef 1S-2kel 1S-2ken 1S-2kf3",
  "hS-2kfd 1S-2kf3 7S-2eg2 1S-2kft hS-2kfs 1S-2kft 7S-2egx 1S-2kgf 1S-2kgd 1S-2kgc 1S-2kg1",
  "1S-2kg7 1S-2kg9 1S-2kfh 1S-2kfi 1X 2S-2l5q aS-2l60 aS-2l6a aS-2l6k aS-2l6u aV i4X fV 5X 1V",
  "fX uoV vX 6V 6X 5xV 7X 1V hX 2V 7X 1V 2X 1V 5X 5S-2m0w 9S-2m0v 3S-2m0u bS-2m0s 1S-2m0r",
  "2S-1pz5 1S-2lwy 1S-2m0m 1S-2m0l 1S-2lwl 1S-2ly8 1S-2lxd 1S-2m1t 9S-2m1s 2S-2m1q 2S-2m1p",
  "1S-2m1o 6S-2m1n 2S-2lzq 1S-2m1e 1S-2m1g 1S-2m17 1S-2lz4 1S-1q1n 1S-2lz0 1X xV 1X 34V 19X 3V",
  "eX 2V aX 4V 2X 8wV vX hV 1mX 5V 1X cwV 16X 5yV 17X 4V 1X 5cV vX 1V mX 8V 2X 68V 7X 1V 4X 1V",
  "2X 1V fX 1V 5hX 2V gX 15Sy yV 16X 4V aX 4V 2X ltV 1wX 24V 1pX 5eS-2od5 2S-2od2 1S-2od0 1X",
  "1S-2ocd 1S-2od0 1S-2od6 1S-2ocx 1S-2ocf 1S-2ocn 4S-2od7 1S-2od2 1S-2ocv 1S-2od8 1S-2ocw",
  "1S-2ode 1S-2odc 1S-2odn 2S-2odl 1S-2odk 1S-2odf 1S-2ode 1S-2odd 1S-2oby 1S-2o9v 1S-2oal",
  "1S-2oc0 1X 1S-2oe1 1S-2ody 1X 1S-2od9 1X 2S-2oe2 1X 1S-2odb 1S-2odj 4S-2oe3 1S-2ody 1S-2odr",
  "1S-2oe4 1S-2ods 1X 1S-2oe8 1S-2oej 2S-2oeh 1X 1S-2oeb 1X 1S-2oe9 1X 6S-2oeu 1X 4S-2oey 1X",
  "1S-2oe7 1X 1S-2oef 1X 1S-2oef 1S-2oez 1S-2oeu 1X 1S-2of0 1S-2oeo 1X 1S-2of4 1X 2S-2ofd 1X",
  "1S-2of7 1X 1S-2of5 1X 1S-2obn 1X 1S-2ods 1X 1S-2oft 1S-2ofq 1X 1S-2of1 1X 2S-2ofu 1S-2ofl",
  "1S-2of3 1S-2ofb 1X 1S-2ofb 2S-2ofv 1S-2ofq 1S-2ofj 1S-2ofw 1S-2ofk 1X 1S-2og0 1S-2ogb",
  "2S-2og9 1X 1S-2og3 1S-2og2 1S-2og1 1S-2oem 1X 1S-2od9 1X 1S-2ogp 2S-2ogm 1S-2ogk 1S-2ofx",
  "2S-2ogk 1S-2ogq 1S-2ogh 1S-2ofz 1X 1S-2og7 3S-2ogr 1S-2ogm 1S-2ogf 1S-2ogs 1S-2ogg 1S-2ogy",
  "1S-2ogw 1S-2oh7 2S-2oh5 1S-2oh4 1S-2ogz 1S-2ogy 1S-2ogx 1X 5S-2ohl 1S-2ohi 1S-2ohg 1X",
  "1S-2ogt 1S-2ohg 1S-2ohm 1S-2ohd 1S-2ogv 1X 1S-2oh3 3S-2ohn 1S-2ohi 1S-2ohb 1S-2oho 1S-2ohc",
  "1S-2ohu 1S-2ohs 1S-2oi3 2S-2oi1 1S-2oi0 1S-2ohv 1S-2ohu 1S-2oht 1X 1gV 2X 7iV 18X 4V 2sX cV",
  "fX 2V fX 1V fX 1V 11X bT1c.18 1T1d.18 1T1e.18 1T1f.18 1T1g.18 1T1h.18 1T1i.18 1T1j.18",
  "1T1k.18 1T1l.18 1V 5T14.2p.15 1T14.2q.15 1T14.2r.15 1T14.2s.15 1T14.2t.15 1T14.2u.15",
  "1T14.2v.15 1T14.2w.15 1T14.2x.15 1T14.2y.15 1T14.2z.15 1T14.30.15 1T14.31.15 1T14.32.15",
  "1T14.33.15 1T14.34.15 1T14.35.15 1T14.36.15 1T14.37.15 1T14.38.15 1T14.39.15 1T14.3a.15",
  "1T14.3b.15 1T14.3c.15 1T14.3d.15 1T14.3e.15 1T9hw.37.9hx 1S-2q4o 1S-2q4a 1T2r.2s 1T3b.3e 1V",
  "1S-2q4v qT2w.3a 1T31.3a 1T37.2s 1T37.37 1T34.34.3a 1T3b.2r 1V qT31.2r 1T31.2s 1T31.36 1V",
  "zT2s.2y 1V tX 1kV qT9kr.9jf 1T9mb.9mb 1S-2gr1 1X dS-26yt 1S-28ca 1S-29ty 1S-2gr0 1S-2avc",
  "1S-28sb 1S-1z5f 1S-28ry 1S-2aus 1S-267t 1S-241l 1S-26bm 1S-2a4v 1S-27ip 1S-2aa9 1S-26b3",
  "1S-2a6b 1S-21nj 1S-239f 1S-1ym2 1S-28tw 1S-29rg 1S-24gi 1S-26xe 1S-26s3 1S-2azt 1S-2azl",
  "1S-1xwh 1S-27uu 1S-2ayo 1S-29tn 1S-26ug 1S-1ygw 1S-26zi 1S-22ep 1S-227t 1S-29t8 1S-24l1",
  "1S-2625 1S-2627 1S-239h 1S-2a4n 1S-29hg 1S-1xpq 1X 4T9hw.kdo.9hx 1T9hw.fex.9hx 1T9hw.fik.9hx",
  "1T9hw.i2x.9hx 1T9hw.m9l.9hx 1T9hw.jf7.9hx 1T9hw.nh3.9hx 1T9hw.gd9.9hx 1T9hw.k0n.9hx 1X",
  "7S-27jt 1S-29uq 1X eV 6X 4aV rdX 3V hX 3V dX 3V 62X 6V cX 4V 1X fV cX 4V 1kX 8V aX 6V 14X 8V",
  "uX 2V cX 4V 2X eV 9X 13V 9kX 8V eX 2V dX 3V bX 3V 1lX 1V 1X 4V gX 2V cX 4V aX 7V 43X 1V",
  "2kS-2sao aV 1X slV wyoX wV 3dqX 2V 4geX 2V 5rlX fV haX 1wiS-3qo3 1S-3qo9 1S-3qo1 1S-1crl",
  "1S-3qg4 1S-3qdz 1S-3qdn 1S-3qbp 1S-3q8e 1S-3q7k 1S-3q5f 1S-3q64 1S-3vqm 1S-1brn 1S-3q2p",
  "1S-3q2j 1S-3q24 1S-3q1m 1S-1bzq 1S-3vq2 1S-3q25 1S-3q14 1S-1byj 1S-3q0w 1S-3q0k 1S-3qkt",
  "1S-3q0e 1S-3q06 1S-k71 1S-3pyg 1S-3py3 1S-3vpc 1S-3pwl 1S-3pwb 1S-3pv4 1S-3pv0 1S-3vnz",
  "1S-3psu 1S-3pst 1S-3ps3 1S-3pri 1S-3pr8 2S-3pqs 1S-3ppf 1S-3pp8 1S-3pp0 1S-3poc 1S-3po3",
  "1S-3po2 1S-3po3 1S-3po4 1S-1b0o 1S-3jyd 1S-3pm4 1S-3plk 1S-1as5 1S-3pla 1S-3pl5 1S-3pkl",
  "1S-3pge 1S-3pj9 1S-3piu 1S-3phz 1S-3pge 1S-3pe3 1S-3pde 1S-3pbk 1S-3pb5 1S-3pa9 1S-3paa",
  "1S-3p9q 1S-3p99 1S-3p92 1S-3p8o 1S-3oz9 1S-3p6u 1S-3oza 1S-3p4t 1S-3p3v 1S-3pzd 1S-3omb",
  "1S-3ouc 1S-3otb 1S-3osn 1S-3owa 1S-3oro 1S-3orq 1S-3ooc 1S-18xh 1S-3omg 1S-3omc 1S-3oly",
  "1S-3olf 1S-3ol8 1S-3ojh 1S-18l4 1S-18jb 1S-3ofq 1S-3oeg 1S-3oe5 1S-3ogd 1S-3ocg 1S-3vcp",
  "1S-3vcc 1S-3o81 1S-3o6k 1S-3o6l 1S-17z8 1S-3o2y 1S-3o2e 1S-3o20 1S-3o1p 1S-17q1 1S-3o1f",
  "1S-3o19 1S-3ndt 1S-3o0j 1S-3v91 1S-3nyv 1S-3nyi 1S-3nw9 1S-3nxp 1S-176f 1S-3nsp 1S-176f",
  "1S-3nrk 1S-3nro 1S-3nr8 1S-3nog 2S-3v4k 1S-3nnr 1S-3nml 1S-3nm1 1S-3nku 1S-3v3a 1S-16h2",
  "1S-3v2m 1S-3niz 1S-3nix 1S-3niv 1S-3nic 1S-gsd 1S-3ngy 1S-165c 1S-165d 1S-3gk2 1S-3ng2",
  "1S-3ng3 1S-3v0v 1S-1333 1S-try 1S-3nef 1S-3ne7 1S-3v08 1S-3ncy 1S-3nbk 1S-3nbb 1S-3nae",
  "1S-3n6n 1S-3uxz 1S-3uyu 1S-3n67 1S-15g0 1S-3n4u 1S-3n1a 1S-3n17 1S-3n16 1S-3n19 1S-3n00",
  "1S-3mzh 1S-3myi 1S-3myx 1S-3myn 1S-3mxd 1S-3mwu 1S-3mwr 1S-3mw2 1S-3mvs 1S-3mtz 1S-3mro",
  "1S-3mqq 1S-3mnb 1S-14mk 1S-3mnw 1S-3mpq 1S-3mmr 1S-3mm1 1S-3mjd 1S-14gd 1S-3mhp 1S-3mkb",
  "1S-3ml4 1S-3us4 1S-3mfu 1S-3mfa 1S-3meg 1S-3mfj 1S-3uqj 1S-3m9l 1S-3m8t 1S-13nk 1S-3m5k",
  "1S-3lxw 1S-3m2s 1S-3ulx 1S-3m0u 1S-3umg 1S-3unh 1S-3q68 1S-3q66 1S-3lxw 1S-3m0p 1S-3gvd",
  "1S-3svy 1S-3lxd 1S-3lxa 1S-3lx5 1S-3lvh 1S-3lvt 1S-12xm 1S-3ul1 1S-3lr9 1S-3luj 1S-3lov",
  "1S-3lnh 1S-12t2 1S-3lna 1S-3lqe 1S-3ljm 1S-3uiy 1S-3lie 1S-3lfq 1S-3lds 1S-3l8j 1S-12dl",
  "1S-3l76 1S-3ufq 1S-3l5a 1S-11zd 1S-3l3x 1S-3uec 1S-3l35 1S-3l1x 1S-3l17 2S-11m2 1S-17fx",
  "1S-11j3 1S-3kx8 1S-116n 1S-3ku5 1S-3kts 1S-3kwn 1S-3krt 1S-3kqq 1S-3kp6 1S-3kqp 1S-3kpm",
  "1S-3kp8 1S-3kow 1S-1148 1S-3kr7 1S-3kk9 1S-3kij 1S-3u8n 1S-3kg0 1S-3kg5 1S-10sc 1S-3klx",
  "1S-3kbl 1S-10oi 1S-10n7 1S-3k98 1S-3k62 1S-3k6u 1S-3k6y 1S-3u68 1S-3k5p 1S-3k4b 1S-3k4i",
  "1S-3k31 1S-1c6u 1S-3jyv 1S-103e 1S-3jwi 1S-zuc 1S-3jso 1S-3jsc 1S-3jrm 1S-zdn 1S-3jqc",
  "1S-3jps 1S-z5d 1S-yz7 1S-3jji 1S-3jj2 1S-3tz2 1S-3jie 1S-3tys 1S-3tyt 1S-3jdz 1S-3jdf",
  "1S-3jcv 1S-3jcc 1S-3jag 1S-3tw8 1S-3j80 1S-y67 1S-3j7c 1S-y3p 1S-3j60 1S-16l6 1S-3j1m 1S-xi2",
  "1S-xhg 1S-xdl 1S-3tqa 1S-3tpz 1S-3ivg 1S-x8u 1S-x8w 1S-x7u 1S-x75 1S-3iuf 2S-3iug 1S-3ita",
  "1S-3tow 1S-3irj 1S-3tol 1S-3tme 1S-wmo 1S-3im8 1S-3ikj 1S-3iis 1S-3tke 1S-w8c 1S-3if1 1S-w56",
  "1S-w40 1S-3idj 1S-3ib0 1S-3tih 1S-3i8p 1S-3i8g 1S-3i8c 1S-vkw 1S-vcm 1S-vcn 1S-3i41 1S-3tcu",
  "1S-v5i 1S-3hy4 1S-3hy2 1S-3tbx 1S-uzp 1S-3hqs 1S-3t8n 1S-3hq8 1S-3hqe 1S-3hpm 1S-ued 1S-3hmx",
  "1S-3t64 1S-3hk7 1S-3hil 1S-3hgr 1S-3t4t 1S-tvu 1S-tv0 1S-3t3v 1S-tr0 1S-3h8c 1S-to9 1S-3h7n",
  "1S-3h4v 1S-3h4l 1S-tcx 1S-tax 1S-3h25 1S-t7a 1S-3h1r 1S-134x 1S-3t0s 1S-3h00 1S-3gxs 1S-3szd",
  "1S-3gw7 1S-3oi9 1S-stc 1S-ssz 1S-133q 1S-133i 1S-3gqy 1S-3gqw 1S-3e27 1S-3swz 1S-3gn2",
  "1S-3gn9 1S-3gms 1S-3q3j 1S-3gma 1S-3gm9 1S-3gm0 1S-3gkw 1S-s4b 1S-3gkz 1S-3gjg 1S-3ghj",
  "1S-3gfi 1S-3gjd 1S-3gf4 1S-3gdz 1S-3gaw 1S-3gi5 1S-3gev 1S-3geu 1S-3gef 1S-rxq 1S-rp6 1S-rtd",
  "1S-3ssc 1S-3g6v 1S-3g6u 1S-3g5w 1S-qg1 1S-3g3s 1S-rcx 1S-3sr5 1S-3sr2 1S-r9b 1S-r1b 1S-3sqv",
  "1S-3fxf 1S-3fx4 1S-3fwu 1S-3fwt 1S-3fv2 1S-3fw0 1S-3fsb 1S-3ftk 1S-3fpe 1S-3fro 1S-3fpu",
  "1S-3fp4 1S-3so8 1S-3fmn 1S-3fls 1S-3snd 1S-3fj7 1S-3fj5 1S-py6 1S-3ffz 1S-3fft 1S-3slv",
  "1S-3ff3 1S-3w27 1S-pi5 1S-pd2 1S-3si7 1S-3shz 1S-3f3j 1S-3f1f 1S-3ex3 1S-3erh 1S-oq3 1S-3ep5",
  "1S-3eok 1S-3em3 1S-3ejk 1S-o89 1S-1brp 1S-3ehb 1S-3ehr 1S-3egc 1S-1blr 1S-3ea2 1S-3e7b",
  "1S-mxa 1S-mwk 1S-3dxq 1S-3dv6 1S-3dub 1S-mnr 1S-3du3 1S-3dm7 1S-3dht 2S-3dke 1S-3d9u 1S-3d93",
  "1S-lpv 1S-3cyr 1S-3ryy 1S-3cxl 1S-lfe 1S-3rws 1S-3cq8 1S-3o02 1S-3cnm 1S-koh 1S-kil 1S-3rt6",
  "1S-3rsz 1S-3cii 1S-k4x 1S-3rre 1S-k13 1S-3chf 1S-3chg 1S-3cgn 1S-jt7 1S-3cbk 1S-3ro0 1S-3c9n",
  "1S-3c66 1S-3c5g 1S-3c3t 1S-3rju 1S-iqh 1S-3bw8 1S-3bnv 1S-3bin 1S-3rcv 1S-3rc1 1S-3bfs",
  "1S-hmq 1S-3rbt 1S-hl9 1S-hdx 1S-hab 1S-3b6i 1S-3r9c 1S-3b4u 1S-3b4q 1S-3b4k 1S-3b4b 1S-3b45",
  "1S-3b35 1S-gm5 1X 15uV 3t7X 5V 6juX f62uI 6oX"]

/-- The treatments of all characters. -/
def table : Ranges Treatment := Ranges.ofLines ofWord lines

/-- The characters that stand for a character in a domain name; none if it spoils the name. -/
def charactersOf? (c : Char) : Option (List Char) :=
  match table.find? c with
  | none | some (_, .refused) => none
  | some (_, .kept) => some [c]
  | some (_, .dropped) => some []
  | some (_, .moved distance) => some [Char.ofNat (c.toNat + distance).toNat]
  | some (start, .paired) =>
    some [if (c.toNat - start) % 2 = 0 then Char.ofNat (c.toNat + 1) else c]
  | some (_, .spelled cs) => some cs

end Treatment

/-- A character stands for itself in domain names. -/
def isKept (c : Char) : Bool := Treatment.charactersOf? c == some [c]

end Nomenclator.Unicode
