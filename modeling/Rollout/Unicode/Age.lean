import Rollout.Unicode.Table

namespace Rollout.Unicode

def versions : List (Char × String) :=
  [('a', "1.1"), ('b', "2.0"), ('c', "2.1"), ('d', "3.0"), ('e', "3.1"), ('f', "3.2"),
   ('g', "4.0"), ('h', "4.1"), ('i', "5.0"), ('j', "5.1"), ('k', "5.2"), ('l', "6.0"),
   ('m', "6.1"), ('n', "6.2"), ('o', "6.3"), ('p', "7.0"), ('q', "8.0"), ('r', "9.0"),
   ('s', "10.0"), ('t', "11.0"), ('u', "12.0"), ('v', "12.1"), ('w', "13.0"), ('x', "14.0"),
   ('y', "15.0"), ('z', "15.1"), ('A', "16.0")]

def versionOfCode? (code : List Char) : Option Nat :=
  match code with
  | [c] => versions.findIdx? fun version => version.1 == c
  | _ => none

def ageLines : List String :=
  ["ady d4 au d8 f1 g1 di g3 hb ie a2h d5 g2 a1b d1 aa d5 gh a1y d9 f1 g8 h5 g3 a2 d1 fd j4 a2 j2 -2",
   "a1 i3 a1 p1 -4 a7 -1 a1 -1 ak -1 a18 j1 a7 d1 f2 a1 d1 a1 d1 a1 d1 a1 d1 ai e2 f1 g5 h4 d1 ac d1",
   "a1u d1 ac d1 a15 j1 d2 f2 d4 a1h f2 a2 f2 a2 f2 i1 as d2 a8 h2 a2 i6 fg i4 jg k2 l2 p8 -1 a12 -2",
   "a7 t1 a13 t1 a1 d1 -2 p2 m1 -1 bh h1 bd aa i1 a9 b1 h3 -8 ar -4 t1 a5 -b g4 m1 p1 j5 h1 a1 g9 j5",
   "a1 o1 x1 h1 a1 l1 aq j5 aj d3 g3 h6 l1 ae f2 a20 d2 a5 d1 af d1 au g2 aa d5 g1 de -1 du g3 dr -2",
   "g3 hu ji d1d f1 -e i1n -2 t3 k1a -2 kf -1 ls -2 l1 -1 sb -5 xv -1 x2 -5 A1 x8 m1 p1 mb p6 q2 x1",
   "r8 wa xb t1 rf q1 mr p1 k1 a3 g1 a1h l2 ai k1 l1 a5 k1 l2 ap j2 l5 p1 k2 i2 h1 i2 p1 a3 -1 a8 -2",
   "a2 -2 am -1 a7 -1 a1 -3 a4 -2 a1 g1 a7 -2 a2 -2 a3 h1 -8 a1 -4 a2 -1 a5 -2 al k1 s2 t1 -2 g1 a1",
   "g1 -1 a6 -4 a2 -2 am -1 a7 -1 a2 -1 a2 -1 a2 -2 a1 -1 a5 -4 a2 -2 a3 -3 j1 -7 a4 -1 a1 -7 af j1",
   "t1 -a a3 -1 a7 g1 a1 -1 a3 -1 am -1 a7 -1 a2 -1 a5 -2 aa -1 a3 -1 a3 -2 a1 -f a1 g3 -2 aa m1 g1",
   "-7 q1 s6 -1 a3 -1 a8 -2 a2 -2 am -1 a7 -1 a2 -1 g1 a4 -2 a8 j1 -2 a2 -2 a3 -7 w1 a2 -4 a2 -1 a3",
   "j2 -2 ab g1 l6 -a a2 -1 a6 -3 a3 -1 a4 -3 a2 -1 a1 -1 a2 -3 a2 -3 a3 -3 a8 h1 a3 -4 a5 -3 a3 -1",
   "a4 -2 j1 -6 a1 -e h1 ac g8 -5 p1 a3 t1 a8 -1 a3 -1 an -1 aa p1 a5 -2 x1 j1 a7 -1 a3 -1 a4 -7 a2",
   "-1 j2 q1 -2 x1 -2 a2 j2 -2 aa -7 u1 j8 r1 p1 a2 t1 a8 -1 a3 -1 an -1 aa -1 a5 -2 g2 a7 -1 a3 -1",
   "a4 -7 a2 -6 x1 a1 -1 a2 i2 -2 aa -1 i2 y1 -c s1 p1 a2 w1 a8 -1 a3 -1 an l1 ag l1 s2 j1 a6 j1 -1",
   "a3 -1 a4 l1 r1 -4 r3 a1 r7 q1 a2 j2 -2 aa j6 r3 j7 -1 w1 d2 -1 di -3 do -1 d9 -1 d1 -2 d7 -3 d1",
   "-4 d6 -1 d1 -1 d8 -6 pa -2 d3 -c a1m -4 at -11 a2 -1 a1 -1 u1 a2 u1 a1 -1 u1 a1 u6 a4 u1 a7 u1",
   "a3 -1 a1 -1 a1 u2 a2 u1 ad u1 a3 -2 a5 -1 a1 -1 a6 y1 -1 aa -2 a2 m2 -w b20 -1 bx d1 j2 -4 br l4",
   "b6 d1 b1 -1 bl d3 b7 d1 b1 d3 -1 df -1 j1 d1 h2 j3 k4 l2 -11 dy j1 d5 j1 d2 j1 d7 j3 d4 j6 dq",
   "j1s k4 j2 a12 -1 m1 -5 m1 -2 a13 f2 h2 a1 h1 m3 a2i k5 a1w k5 a2a k6 d7 h1 d1r h1 d1 -1 d4 -2 d7",
   "-1 d1 -1 d4 -2 d13 h1 d1 -1 d4 -2 dv h1 d1 -1 d4 -2 d7 -1 d1 -1 d4 -2 d7 h1 d7 -1 dn h1 dv h1 d1",
   "-1 d4 -2 d7 h1 d13 h1 dj -2 l2 h2 ds -3 hq -6 d2d q1 -2 q6 -2 k1 dhi k9 dt -3 d29 p8 -7 fd x1 f7",
   "x1 -9 x1 fn -9 fk -c fd -1 f3 -1 f2 -c d2l g1 -2 da -6 ga -6 df x1 da -6 d2g t1 -7 d16 j1 -5 k1y",
   "-a gt p2 -1 gc -4 gc -4 g1 -3 g16 -2 g5 -b h16 k2 -4 hq -6 ha k1 -3 h2 gw hs -2 h2 k1r -1 kt -2",
   "kb -6 ka -6 ke -2 pf w2 xe -1d i24 x1 -1 A2 i19 x2 A1 j17 m3 jc m6 l1g -8 l4 j1k -3 jf -3 j1f r9",
   "A2 -5 t17 -2 t3 m8 -8 kz m4 s1 p2 u1 -5 g30 h2g i7 js pf s4 x1 r1 l1 k1 i2 a4b b1 j4 a2i j6 am",
   "-2 a6 -2 a12 -2 a6 -2 a8 -1 a1 -1 a1 -1 a1 -1 av -2 a1h -1 af -1 ae -2 a6 -1 aj -2 a3 -1 a9 -1",
   "a1b d1 an f1 d6 f5 g2 h2 f1 h7 f5 j1 -1 o4 a7 f1 -2 ar -1 h5 l8 -3 ab b1 c1 d3 f2 h4 k3 l1 n1 p3",
   "q1 s1 x1 -f ai d2 f7 h1 i4 j1 -f a1l d2 g1 h1 ff h1 i2 j1 k3 a1c d1 i1 j4 k1 q2 -4 a2j d9 fc a6q",
   "fe a1 d1 a3d d1 f1 du f1g g2 hb ic k1 lb p7 r4 s1 a11 d2 A3 -m ab -l a3v fk g1 a46 fa a28 d8 f8",
   "ak g2 f2 h1 d1 a2e d2 fc h2 fa g8 hb j1 k2 g2 hg i1 ja k3 j4 ka l1 kj l1 k1 l4 ko p1 a4 l1 a4 l2",
   "as l1 az l1 a1 l1 a4 l3 a1 k1 a7 l2 a7 fe av l3 ao l1 ae l1 h7 i4 m1 j1 m1 l2 fs j4 fg d74 fe8",
   "ge h6 i7 j5 i4 j15 p3 j5 k5 pq -2 pw -1 w1 py t3 pc u1 p8 s1 tp q4 tf u1 h1b x1 h1b x1 id j3 k1",
   "j3 i4 j6 k2 h2z k7 m2 -5 h19 -1 m1 -5 m1 -2 h1i m2 -7 h1 l1 -e l1 hn -9 h7 -1 h7 -1 h7 -1 h7 -1",
   "h7 -1 h7 -1 h7 -1 h7 -1 jw ho j4 h2 jj k1 ma p7 r2 s5 t5 u1 w3 xb -y dq -1 d2h -c d5y -q dc z4",
   "a1k d3 f3 d1 a1 -1 a2c f2 -2 a6 f2 a2m f1 -5 a14 j1 s1 t1 -1 a2m -1 ag do l3 w5 hg jk A2 -9 z1",
   "fg at g2 -1 a10 kc g1 ff as g2 h1 a1e ff ac g4 a1b v1 a3b g4 a2r g2 av g1 d52u wa g1s ag4m hm j8",
   "k8 m1 q9 sl t5 wd x3 dwd -3 di f2 dg f1 dc f1 d3 f1 d1 -9 k1c j8c -k jw l2 ji m8 js p6 q1 m1 k2g",
   "-8 hn i4 j5 i2 j2z l2 q1 l2 m2 pc la m1 p3 r1 t1 p2 q6 t2 u6 x2 u5 w4 A3 -2 x2 -1 x1 -1 x5 A3 -l",
   "x3 w2 p1 m2 l1 j5 h18 w1 -3 ka -6 i1k -8 j1x r1 -8 jc -6 ks q2 t2 j2c -b j1 kt -3 k26 -1 kb -4",
   "k2 pv -1 j1j -9 je -2 ja -2 j4 ks p4 k1v -o k5 mn -a l6 -2 l6 -2 l6 -9 l7 -1 l7 -1 p1c q4 p2 u2",
   "w4 -4 q28 k1a -2 ka -6 b8mc -c kn -4 k1d -4 b1kw a566 m2 f1n k3 -2 h2y -12 a7 -c a5 -5 d1 ap -1",
   "a5 -1 a1 -1 a2 -1 a2 -1 a30 lg x1 -g aa5 xg a1s -2 a1i -7 x1 ew ac f1 g1 x2 fg ha -6 a4 j3 p7 q2",
   "al f2 g2 aa -1 aj -1 a4 -4 a3 f1 a1 -1 a3r -2 a1 -1 a2m f2 a2m -3 a6 -2 a6 -2 a6 -2 a3 -3 a7 -1",
   "a7 -a d3 c1 a3 gc -1 gq -1 gj -1 g2 -1 gf -2 ge -y g3f -5 g3 -4 g19 -3 g9 h23 p2 r2 -1 jc w1 -3",
   "p1 -1b j1a -3m jt -3 j1d -f ps -4 ev p1 e4 -9 s3 er -5 p17 -5 gu -1 g1 h10 -4 he -16 e12 g2 e12",
   "g28 -2 ga -6 r10 -4 r10 -4 p14 -8 p1g -b p1 xb -1 xf -1 x7 -1 x2 -1 xb -1 xf -1 x7 -1 x2 -3 A1g",
   "-c p8n -9 pm -a p8 -o x6 -1 x16 -1 x9 -1x g6 -2 g1 -1 g18 -1 g2 -3 g1 -2 g1 km -1 k9 p1r -8 p9",
   "-1c qj -1 q2 -5 q5 iq k2 -3 i1 jq -5 j1 -1s m1k -4 q2 m2 qg -2 q1a h4 -1 h2 -5 h8 -1 h3 -1 hr t2",
   "-2 h3 -4 h9 t1 -7 h9 -7 kw pw -w p13 -4 pc -9 k1i -3 kt -2 kr -5 k8 pi -7 p4 -c p7 -28 k21 -1j",
   "q1f -d q1f -7 q6 t14 -8 ta -6 A12 -3 At -8 A2 -5s kv -1 w16 -1 w3 -2 w2 -g A3 -1j A1 y3 t14 -8",
   "t16 -m xq -12 ws -k un -9 l26 -4 lu x6 -9 p1 k1u x1 -a t1 -2 mp -7 ma -6 m1h -1 me t3 w1 -8 p13",
   "-9 m21 q4 p1 w2 ma p1 q5 -1 pk -b pi -1 p17 r1 y3 -1q q7 -1 q1 -1 q4 -1 qf -1 qb -6 p1n -5 pa -6",
   "q1 p3 -1 p8 -2 p2 -2 pm -1 p7 -1 p2 -1 p5 -1 t1 p9 -2 p2 -2 p3 -2 q1 -6 p1 -5 p7 -2 p7 -3 p5 -b",
   "Aa -1 A1 -2 A1 -1 A12 -1 Aa -1 A1 -2 A1 -1 A4 -1 Aa -1 A2 -8 A2 -t r2i w1 r1 -1 r1 t1 u1 w2 -u",
   "p20 -8 pa -4m p1i -2 pi qk -y p1x -b pa -6 rd -j m1k u1 x1 -6 ma -6 Ak -s qq t1 -2 qf -4 qg x7",
   "-55 t1o -2s p2b -c p1 w7 -2 w1 -2 w8 -1 w2 -1 wu -1 w2 -2 wc -9 wa -1y u8 -2 u1a -2 ub -r s20 -8",
   "s1g u2 sn t1 s5 -d xg p1l -7 ya -52 Ay -e Aa -6 r9 -1 r19 -1 re -a rt -3 rw -2 rm -1 re -21 s7",
   "-1 s2 -1 s18 -3 s1 -1 s2 -1 s9 -8 sa -6 t6 -1 t2 -1 t11 -1 t2 -1 t6 -7 ta -8m tp -7 yh -1 y15 -3",
   "ys A1 -2d w1 -f u1e -d u1 iof p16 q1 -2u i2r pc -1 i4 p1 -b q5g -218 x2r -d ktr y1 u9 yt -a A32z",
   "-5 qg7 -5a1 A1m -1c6 lft -7 pv -1 pa -4 p2 x27 -1 xa -6 pu -2 p6 -a p1y -a pa -1 p7 -1 pl -5 pj",
   "-c0 A1m -5i t2j -2t m1x u6 -4 u1 m1b u9 -7 mh -1s r1 s1 u2 w1 -b w2 -e r4q5 t5 u6 -8 rkz wdf -15",
   "A1 w9 -6w7 x4 -1 x7 -1 x2 -1 l2 s7x x4 -f y1 -t u3 -2 y1 -e u4 -8 sb0 -1s4 p2z -5 pd -3 p9 -7 pa",
   "-2 p8 -318 A6y -6 Ac4 -24 x1a -2 xn -9 x38 -1o e6u -a e13 -2 j1 e50 qb x2 -l h1y -3e yk -c tk -c",
   "g2f -9 ii t7 -3r e2d -1 e1z -1 e2 -2 e1 -2 e2 -2 e4 -1 ec -1 e1 -1 e4 g1 e2 -1 e1t -1 e4 -2 e8",
   "-1 e7 -1 es -1 e4 -1 e5 -1 e1 -3 e7 -1 e9e h2 -2 e82 i2 -2 e1e qi4 -f q5 -1 qf -uo xv -6 y6 -5x",
   "r7 -1 rh -2 r7 -1 r2 -1 r5 -5 y1q -x y1 -34 u19 -3 ue -2 ua -4 u2 -8w xv -h u1m -5 u1 -cw y16",
   "-5y A17 -4 A1 -dc x7 -1 x4 -1 x2 -1 xf -1 p5h -2 pg -15 r23 u1 -4 ra -4 r2 -lt t1w -24 u1p -5e",
   "m4 -1 mr -1 m2 -1 m1 -2 m1 -1 ma -1 m4 -1 m1 -1 m1 -6 m1 -4 m1 -1 m1 -1 m1 -1 m3 -1 m2 -1 m1 -2",
   "m1 -1 m1 -1 m1 -1 m1 -1 m1 -1 m2 -1 m1 -2 m4 -1 m7 -1 m4 -1 m4 -1 m1 -1 ma -1 mh -5 m3 -1 m5 -1",
   "mh -1g m2 -7i j18 -4 j2s -c lf -2 le p1 -1 lf -1 lf pm -a kb p2 w3 kv t1 l1 k1 lb k1 l1 k1 l2 k1",
   "l3 k1 l3 k5 l8 k1 l7 k1 la m2 u1 w3 l9 k1 l1 k2 l2 k1 la k4 l2 k1 la ri w1 -1k lq k1 l2 -d ky l9",
   "r1 -4 k9 -7 l2 -e s6 -4a lx pc q3 l6 p1 l1y p1 q2 lk pc l11 p1 l5 p4 q5 pc lh p7 q8 l1r p1 l1 p1",
   "l52 p1 l4 p2 q1 l1q p2 m4 p7 q5 lo pi r1 p15 r1 p2e l5 m1 lg m1 l3 m1 l1 m1 l1 m1 l1 m1 l3 m1 l6",
   "m2 l4 m1 l1 m2 l4 m1 lc p2 q2 lb p1c l1y pa q1 r2 s2 u1 w2 -4 y1 x3 pd -3 p4 r3 s2 t1 u1 w2 -3",
   "l38 y3 -4 y5 p2d t4 y1 -6 uc -4 x1 -f pc -4 p1k -8 pa -6 p14 -8 pu -2 w2 Aa -4 A2 -1q sc w1 u3",
   "q9 r6 s1 r8 s8 r1 s2 rc u1 rc s1 t3 rf sd t5 u1 w1 t4 w2 x1 t1 u1 t4 q5 rd s6 tb w2 u6 w3 u2 ta",
   "u6 q1 t2 u8 w1 x1 u3 sn tp u2c -c te -2 u4 w1 y3 u3 x2 -3 u3 w4 y2 A1 -5 A1 u6 wj x4 y3 w7 x4 y3",
   "A1 y1 w3 x3 A1 -7 y2 w7 x3 y2 A1 -2 A1 x8 y1 A1 -6 x7 y2 -7 w43 -1 w1j A11 wa -sk b2 ewyf w7 x2",
   "-w k379 x4 y1 -6 l66 -2 q4g2 -e s5rl -f zha -1wi ef2 -15s b2 w3t7 -5 y38g -17im b2 -1eke b2",
   "-1eke b2 -1eke b2 -1eke b2 -1eke b2 -1eke b2 -1eke b2 -1eke b2 -1eke b2 -1eke b2 -1 e1 -u e2o",
   "-3k g6o -1e6m b2t4y"]

def ageRuns : List (Run Nat) := runsFrom 1 versionOfCode? 0 (words ageLines)

def versionNamed? (name : String) : Option Nat :=
  versions.findIdx? fun version =>
    version.2 == name || 'v' :: version.2.toList.filter (· ≠ '.') == name.toList

def ofVersion (version : Nat) : CharSet :=
  setOfRuns (ageRuns.filter fun run => run.value ≤ version)

end Rollout.Unicode
