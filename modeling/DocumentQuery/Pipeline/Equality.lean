import DocumentQuery.Pipeline.Basic

/-!
Equality of pipelines as callers see it: the same display name and the same stages, doubles being
compared as numbers.
-/

namespace DocumentQuery

def doublesNumEq : List Double → List Double → Bool
  | [], [] => true
  | a :: as, b :: bs => a.numEq b && doublesNumEq as bs
  | _, _ => false

def SortKey.listNumEq : List SortKey → List SortKey → Bool
  | [], [] => true
  | a :: as, b :: bs => a.numEq b && SortKey.listNumEq as bs
  | _, _ => false

def Accumulator.entriesNumEq : Dictionary Accumulator → Dictionary Accumulator → Bool
  | [], [] => true
  | (k, a) :: as, (l, b) :: bs =>
    k == l && a.toExpr.numEq b.toExpr && Accumulator.entriesNumEq as bs
  | _, _ => false

def JoinCondition.numEq : Option JoinCondition → Option JoinCondition → Bool
  | none, none => true
  | some (.on a), some (.on b) => a.numEq b
  | some (.using a), some (.using b) => a == b
  | _, _ => false

def SampleSize.numEq : SampleSize → SampleSize → Bool
  | .documents a, .documents b => a == b
  | .percent a, .percent b => a.numEq b
  | _, _ => false

mutual

def Stage.numEq : Stage → Stage → Bool
  | .collection a, .collection b => a == b
  | .collectionGroup a, .collectionGroup b => a == b
  | .database, .database => true
  | .documents a, .documents b => a == b
  | .select a, .select b => Expr.entriesNumEq a b
  | .addFields a, .addFields b => Expr.entriesNumEq a b
  | .removeFields a, .removeFields b => a == b
  | .filter a, .filter b => a.numEq b
  | .offset a, .offset b => a == b
  | .limit a, .limit b => a == b
  | .sort a d t, .sort b e u => SortKey.listNumEq a b && d == e && t == u
  | .aggregate a g, .aggregate b h => Accumulator.entriesNumEq a b && Expr.entriesNumEq g h
  | .distinct a, .distinct b => Expr.entriesNumEq a b
  | .findNearest f v m l d, .findNearest g w n k e =>
    f == g && doublesNumEq v w && m == n && l == k && d == e
  | .join k c l r p, .join k' c' l' r' p' =>
    k == k' && JoinCondition.numEq c c' && l == l' && r == r' && p.numEq p'
  | .unnest f a m i, .unnest g b n j => f == g && a == b && m == n && i == j
  | .union a, .union b => a.numEq b
  | .sample a, .sample b => a.numEq b
  | .replace a m, .replace b n => a.numEq b && m == n
  | .generic f a o, .generic g b p =>
    f == g && StageArgument.listNumEq a b && StageArgument.entriesNumEq o p
  | _, _ => false

def Stage.listNumEq : List Stage → List Stage → Bool
  | [], [] => true
  | a :: as, b :: bs => a.numEq b && Stage.listNumEq as bs
  | _, _ => false

def Pipeline.numEq : Pipeline → Pipeline → Bool
  | ⟨m, a⟩, ⟨n, b⟩ => m == n && Stage.listNumEq a b

def StageArgument.numEq : StageArgument → StageArgument → Bool
  | .expr a, .expr b => a.numEq b
  | .json a, .json b => a.normalize.numEq b.normalize
  | .pipeline a, .pipeline b => a.numEq b
  | _, _ => false

def StageArgument.listNumEq : List StageArgument → List StageArgument → Bool
  | [], [] => true
  | a :: as, b :: bs => a.numEq b && StageArgument.listNumEq as bs
  | _, _ => false

def StageArgument.entriesNumEq :
    List (String × StageArgument) → List (String × StageArgument) → Bool
  | [], [] => true
  | (k, a) :: as, (l, b) :: bs => k == l && a.numEq b && StageArgument.entriesNumEq as bs
  | _, _ => false

end

end DocumentQuery
