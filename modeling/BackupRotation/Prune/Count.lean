import BackupRotation.Failure
/-!
# How many snapshots to prune

A prune request names either `all` or a positive count. The count is read
as a signed 64-bit decimal, so `+4` and `007` are accepted and `0`, `-1`,
` 2` and `0x10` refused. Against `n` candidates, `all` means `n` and a count
`k` means `min k n`; the decisions then mark the first that many candidates,
which are the oldest.
-/

namespace BackupRotation.Prune

open Text

/-- A prune request. -/
inductive DeleteCount where
  | all
  | oldest (count : Nat)
deriving DecidableEq, Repr

namespace DeleteCount

/-- Read a prune request. -/
def parse (raw : String) : Outcome DeleteCount :=
  if raw == "all" then .ok .all
  else
    match readInt64? raw with
    | some value => if value ≥ 1 then .ok (.oldest value.toNat) else .error (.invalidCount raw)
    | none => .error (.invalidCount raw)

/-- How many of `available` candidates the request covers. -/
def resolve (count : DeleteCount) (available : Nat) : Nat :=
  match count with
  | .all => available
  | .oldest n => min n available

/-- The request as written back: `all` or the number. -/
def render : DeleteCount → String
  | .all => "all"
  | .oldest n => toString n

end DeleteCount

/-- Removal decisions for `candidates` snapshots, oldest first: the first
`count` are removed. -/
def decisions (candidates count : Nat) : List Bool :=
  (List.range candidates).map fun index => index < count

end BackupRotation.Prune
