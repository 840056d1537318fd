import Mathlib.Data.List.Infix

namespace LibDvb

variable {α : Type}

-- A receiver that puts messages together from pieces, each marked whether more of its message follows. It takes no
-- notice of an empty message.
structure Assembly (α : Type) where
  messages : List (List α) := []
  begun : List α := []

namespace Assembly

def take (a : Assembly α) (piece : Bool × List α) : Assembly α :=
  if piece.1 then { a with begun := a.begun ++ piece.2 }
  else
    { messages := if (a.begun ++ piece.2).isEmpty then a.messages else a.messages ++ [a.begun ++ piece.2]
      begun := [] }

def of (pieces : List (Bool × List α)) : Assembly α := pieces.foldl take {}

inductive Pieces : List α → List (Bool × List α) → Prop
  | last (m : List α) : Pieces m [(false, m)]
  | more (part : List α) {m : List α} {pieces : List (Bool × List α)} (rest : Pieces m pieces) :
      Pieces (part ++ m) ((true, part) :: pieces)

variable {a : Assembly α} {m : List α} {pieces more : List (Bool × List α)}

@[simp] theorem of_nil : of ([] : List (Bool × List α)) = {} := rfl

theorem of_append : of (pieces ++ more) = more.foldl take (of pieces) := List.foldl_append

theorem take_messages (piece : Bool × List α) : a.messages <+: (a.take piece).messages := by
  unfold take
  split
  · exact List.prefix_rfl
  · dsimp only
    split
    · exact List.prefix_rfl
    · exact List.prefix_append _ _

theorem foldl_messages : a.messages <+: (pieces.foldl take a).messages := by
  induction pieces generalizing a with
  | nil => exact List.prefix_rfl
  | cons piece pieces ih => exact (take_messages piece).trans ih

theorem messages_mono (h : pieces <+: more) : (of pieces).messages <+: (of more).messages := by
  obtain ⟨rest, rfl⟩ := h
  rw [of_append]
  exact foldl_messages

theorem Pieces.foldl (h : Pieces m pieces) : ∀ a : Assembly α, a.begun ++ m ≠ [] →
    pieces.foldl take a = { messages := a.messages ++ [a.begun ++ m], begun := [] } := by
  induction h with
  | last m =>
      intro a hne
      have hfull : ¬ (a.begun ++ m).isEmpty = true := by rwa [List.isEmpty_iff]
      rw [List.foldl_cons, List.foldl_nil, take, if_neg Bool.false_ne_true, if_neg hfull]
  | @more part m pieces rest ih =>
      intro a hne
      rw [← List.append_assoc] at hne
      rw [List.foldl_cons, take, if_pos rfl, ih _ hne, List.append_assoc]

end Assembly

end LibDvb
