import Rollout.Unicode.Table

/-! Simple case folding, as of version 16 of Unicode: each character goes to one that stands for all
its case variants. -/

namespace Rollout

namespace Unicode

structure FoldRun where
  start : Nat
  count : Nat
  step : Nat
  shift : Nat
  deriving Repr

/-- Each word is a start, a count, a step and a shift. -/
def foldLines : List String :=
  ["1t-q-1-w 51-1-1-lj 5c-n-1-w 60-7-1-w 74-o-2-1 8i-3-2-1 8p-8-2-1 96-n-2-1 ag-1-1-nvk7 ah-3-2-1",
   "an-1-1-nvg4 ap-1-1-5u aq-2-2-1 au-1-1-5q av-1-1-1 ax-2-1-5p az-1-1-1 b2-1-1-27 b3-1-1-5m",
   "b4-1-1-5n b5-1-1-1 b7-1-1-5p b8-1-1-5r ba-1-1-5v bb-1-1-5t bc-1-1-1 bg-1-1-5v bh-1-1-5x",
   "bj-1-1-5y bk-3-2-1 bq-1-1-62 br-1-1-1 bt-1-1-62 bw-1-1-1 by-1-1-62 bz-1-1-1 c1-2-1-61 c3-2-2-1",
   "c7-1-1-63 c8-1-1-1 cc-1-1-1 ck-1-1-2 cl-1-1-1 cn-1-1-2 co-1-1-1 cq-1-1-2 cr-9-2-1 da-9-2-1",
   "dt-1-1-2 du-2-2-1 dy-1-1-nvkv dz-1-1-nvm0 e0-k-2-1 f4-1-1-nvjy f6-9-2-1 fu-1-1-8bv fv-1-1-1",
   "fx-1-1-nvj1 fy-1-1-8bs g1-1-1-1 g3-1-1-nvi5 g4-1-1-1x g5-1-1-1z g6-5-2-1 n9-1-1-38 og-2-2-1",
   "om-1-1-1 ov-1-1-38 p2-1-1-12 p4-3-1-11 p8-1-1-1s pa-2-1-1r pc-1-1-5kz pd-h-1-w pv-9-1-w",
   "q8-1-1-5kj qq-1-1-1 r3-1-1-8 r4-1-1-nvmq r5-1-1-nvmv r9-1-1-nvn5 ra-1-1-nvmy rc-c-2-1",
   "s0-1-1-nvm2 s1-1-1-nvm8 s4-1-1-nvlw s5-1-1-nvls s7-1-1-1 s9-1-1-nvnd sa-1-1-1 sd-3-1-nvjy",
   "sg-g-1-28 sw-w-1-w v4-h-2-1 wa-r-2-1 xs-1-1-f xt-7-2-1 y8-1c-2-1 10x-12-1-1c 3a8-12-1-5ls",
   "3bb-1-1-5ls 3bh-1-1-5ls 3y0-6-1-nvnc 5mo-1-1-nquq 5mp-1-1-nqur 5mq-1-1-nqv0 5mr-2-1-nqv2",
   "5mt-1-1-nqv1 5mu-1-1-nqv8 5mv-1-1-nqvw 5mw-1-1-r7n 5mx-1-1-1 5n4-17-1-ntc0 5od-3-1-ntc0",
   "5xc-23-2-1 61n-1-1-nvly 61q-1-1-nps1 61s-1c-2-1 64o-8-1-nvnc 654-6-1-nvnc 65k-8-1-nvnc",
   "660-8-1-nvnc 66g-6-1-nvnc 66x-4-2-nvnc 67c-8-1-nvnc 688-8-1-nvnc 68o-8-1-nvnc 694-8-1-nvnc",
   "69k-2-1-nvnc 69m-2-1-nvli 69o-1-1-nvnb 69q-1-1-nq4b 6a0-4-1-nvl6 6a4-1-1-nvnb 6ag-2-1-nvnc",
   "6ai-2-1-nvks 6aw-2-1-nvnc 6ay-2-1-nvkg 6b0-1-1-nvnd 6bc-2-1-nvk0 6be-2-1-nvk2 6bg-1-1-nvnb",
   "6jq-1-1-npur 6ju-1-1-np6p 6jv-1-1-npa2 6k2-1-1-s 6lc-g-1-g 6mb-1-1-1 792-q-1-q 8ow-1c-1-1c",
   "8rk-1-1-1 8rm-1-1-nnd5 8rn-1-1-nspm 8ro-1-1-nndl 8rr-3-2-1 8rx-1-1-nnc4 8ry-1-1-nncz",
   "8rz-1-1-nnc1 8s0-1-1-nnc2 8s2-1-1-1 8s5-1-1-1 8se-2-1-nnb5 8sg-1e-2-1 8vf-2-2-1 8vm-1-1-1",
   "wu8-n-2-1 ww0-e-2-1 x0i-7-2-1 x0y-v-2-1 x2x-2-2-1 x31-1-1-n4e4 x32-5-2-1 x3f-1-1-1 x3h-1-1-mz14",
   "x3k-2-2-1 x3q-a-2-1 x4a-1-1-mz0c x4b-1-1-mz01 x4c-1-1-mz05 x4d-1-1-mz0f x4e-1-1-mz0c",
   "x4g-1-1-mz1q x4h-1-1-mz12 x4i-1-1-mz1n x4j-1-1-ps x4k-8-2-1 x50-1-1-nvm8 x51-1-1-mz0d",
   "x52-1-1-n4co x53-2-2-1 x57-1-1-myzd x58-1-1-1 x5c-1-1-1 x5i-3-2-1 x5o-1-1-mytb x6d-1-1-1",
   "xv4-28-1-n1o0 1dl1-1-1-1 1ee9-q-1-w 1fcw-14-1-14 1fhs-10-1-14 1fn4-b-1-13 1fng-f-1-13",
   "1fnw-7-1-13 1fo4-2-1-13 1h1c-1f-1-1s 1h74-m-1-w 1jfk-w-1-w 20cg-w-1-w 2olc-y-1-y"]

def FoldRun.ofWord? (word : List Char) : Option FoldRun :=
  match word.splitOn '-' with
  | [start, count, step, shift] =>
    some ⟨ofBase36 start, ofBase36 count, ofBase36 step, ofBase36 shift⟩
  | _ => none

def FoldRun.foldings (run : FoldRun) : List (Char × Char) :=
  (List.range run.count).map fun i =>
    let n := run.start + i * run.step
    (Char.ofNat n, Char.ofNat ((n + run.shift) % 0x110000))

def foldings : List (Char × Char) :=
  ((words foldLines).filterMap FoldRun.ofWord?).flatMap FoldRun.foldings

def unfoldings : List (Char × Char) :=
  (foldings.map fun (c, folded) => (folded, c)).mergeSort fun a b => a.1 ≤ b.1

def valuesWithin {α : Type} : List CharRange → List (Char × α) → List α
  | [], _ => []
  | _, [] => []
  | r :: rs, (c, value) :: rest =>
    if c < r.low then valuesWithin (r :: rs) rest
    else if r.high < c then valuesWithin rs ((c, value) :: rest)
    else value :: valuesWithin (r :: rs) rest
termination_by rs pairs => rs.length + pairs.length

end Unicode

namespace CharSet

def foldCase (s : CharSet) : CharSet :=
  let folded := s.union (ofChars (Unicode.valuesWithin s.ranges Unicode.foldings))
  folded.union (ofChars (Unicode.valuesWithin folded.ranges Unicode.unfoldings))

def foldAsciiCase (s : CharSet) : CharSet :=
  let shifted (low high : Char) (shift : Char → Char) : List CharRange :=
    ((s.inter (range low high)).ranges).map fun r => ⟨shift r.low, shift r.high⟩
  s.union (ofRanges (shifted 'a' 'z' Char.toUpper ++ shifted 'A' 'Z' Char.toLower))

end CharSet

end Rollout
