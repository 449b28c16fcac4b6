namespace LoxReader

class Collector (σ δ : Type) where
  receive : σ → δ → σ

namespace Collector

def receiveAll {σ δ : Type} [Collector σ δ] (state : σ) (values : List δ) : σ :=
  values.foldl receive state

end Collector

structure Log (δ : Type) where
  entries : Array δ := #[]

namespace Log

variable {δ : Type}

instance : Collector (Log δ) δ where
  receive log value := ⟨log.entries.push value⟩

def toList (log : Log δ) : List δ := log.entries.toList

def length (log : Log δ) : Nat := log.entries.size

def isEmpty (log : Log δ) : Bool := log.entries.isEmpty

def take (log : Log δ) : List δ × Log δ := (log.toList, {})

theorem length_toList (log : Log δ) : log.toList.length = log.length := rfl

@[simp]
theorem toList_receive (log : Log δ) (value : δ) :
    (Collector.receive log value).toList = log.toList ++ [value] := by
  simp [Collector.receive, toList]

theorem toList_receiveAll (log : Log δ) (values : List δ) :
    (Collector.receiveAll log values).toList = log.toList ++ values := by
  unfold Collector.receiveAll
  induction values generalizing log with
  | nil => simp
  | cons value values ih => rw [List.foldl_cons, ih, toList_receive, List.append_assoc]; rfl

end Log

structure Tally where
  count : Nat := 0
  deriving DecidableEq, Repr

namespace Tally

variable {δ : Type}

instance : Collector Tally δ where
  receive tally _ := ⟨tally.count + 1⟩

def reset (_ : Tally) : Tally := {}

theorem count_receiveAll (tally : Tally) (values : List δ) :
    (Collector.receiveAll tally values).count = tally.count + values.length := by
  unfold Collector.receiveAll
  induction values generalizing tally with
  | nil => rfl
  | cons value values ih =>
      rw [List.foldl_cons, ih, List.length_cons]
      simp only [Collector.receive]
      omega

end Tally

end LoxReader
