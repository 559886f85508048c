import CommandCompletion.Text.Width

namespace CommandCompletion.Text

-- Code points that are shown as one picture, and the cells that it takes.
structure Cluster where
  text : Text
  width : Nat
deriving DecidableEq, Repr

-- Adds code points to the last cluster, which comes first. Without one they make up their own.
def grow (more : Text) (extra : Nat) : List Cluster → List Cluster
  | [] => [⟨more, 0⟩]
  | last :: others => ⟨last.text ++ more, last.width + extra⟩ :: others

-- The clusters of a text behind the finished ones, the last first. `last` is the last code point
-- that took cells, unless a selector has been used on it.
def clustersAfter (done : List Cluster) (last : Option CodePoint) : Text → List Cluster
  | [] => done.reverse
  | [c] =>
    (if 0 < pointWidth c then ⟨[c], pointWidth c⟩ :: done
      else if c = pictureSelector && last.any isWidened then grow [c] 1 done
      else grow [c] 0 done).reverse
  | c :: next :: rest =>
    if c = joiner && !done.isEmpty then clustersAfter (grow [c, next] 0 done) last rest
    else if 0 < pointWidth c then
      clustersAfter (⟨[c], pointWidth c⟩ :: done) (some c) (next :: rest)
    else if c = pictureSelector && last.any isWidened then
      clustersAfter (grow [c] 1 done) none (next :: rest)
    else clustersAfter (grow [c] 0 done) last (next :: rest)

def clusters (text : Text) : List Cluster :=
  clustersAfter [] none text

-- The first cells of clusters. Where the next one takes more cells than are left, a space stands.
def takeClusters : Nat → List Cluster → Text
  | _, [] => []
  | 0, _ => []
  | limit, k :: rest =>
    if k.width ≤ limit then k.text ++ takeClusters (limit - k.width) rest else " "

-- The first cells of a text.
def takeCells (limit : Nat) (text : Text) : Text :=
  if width text ≤ limit then text else takeClusters limit (clusters text)

-- Clusters in rows of at most `limit` cells; `taken` cells of the first are taken already.
def rows (limit taken : Nat) : List Cluster → List Text
  | [] => [[]]
  | k :: rest =>
    let next := taken + k.width
    let wraps := limit < next
    match rows limit (if wraps then k.width else next) rest with
    | row :: others =>
      if wraps then [] :: (k.text ++ row) :: others else (k.text ++ row) :: others
    | [] => [k.text]

-- Cuts a text into pieces of at most `limit` cells.
def chop (limit : Nat) (text : Text) : List Text :=
  rows limit 0 (clusters text)

end CommandCompletion.Text
