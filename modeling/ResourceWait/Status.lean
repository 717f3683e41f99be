/-!
# Lifecycle statuses

A status is a word that a remote service chose: `available`, `ERROR`, `in-use`. Services do not
agree with themselves on its letter case, so two statuses are compared after folding case – and
only ASCII case, since a status is compared, never displayed in some language: `É` and `é` stay two
different statuses, and the Kelvin sign is no `k`.

`Status.key` is the folded form and `Status.agree` compares two keys, so agreeing is an equivalence
because equality is one.
-/

namespace ResourceWait.Status

/-- **The folded form of a status**: its characters, with the capitals `A` to `Z` – and nothing
else – made small. -/
def key (status : String) : List Char :=
  status.toList.map Char.toLower

/-- **Two statuses agree** when only the case of ASCII letters tells them apart. -/
def agree (a b : String) : Bool :=
  key a == key b

/-- Whether a status agrees with some entry of a list. -/
def isAnyOf (status : String) (statuses : List String) : Bool :=
  statuses.any (agree status)

/-- Agreeing is having the same folded form. -/
theorem agree_iff {a b : String} : agree a b = true ↔ key a = key b := by
  simp [agree]

/-- A status agrees with itself. -/
@[simp] theorem agree_self (a : String) : agree a a = true := by
  simp [agree]

/-- A status is any of a list when an entry of the list agrees with it. -/
theorem isAnyOf_iff {status : String} {statuses : List String} :
    isAnyOf status statuses = true ↔ ∃ s ∈ statuses, agree status s = true := by
  simp [isAnyOf]

end ResourceWait.Status
