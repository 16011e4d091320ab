/-
Items on their way through a queue.

An item is admitted to the queue, taken into the hand, and finished there, which
leaves a product.  Items may be lost in the hand or in the queue.  Nothing is known
of an item but the product it leaves, so that equal items are told apart only by
their order.
-/

import Mathlib.Data.List.Forall2

variable {Item Product : Type*}

structure Conveyor (Item Product : Type*) where
  admitted : List Item := []
  waiting : List Item := []
  hand : Option Item := none
  made : List Product := []

namespace Conveyor

/-- The steps that lose nothing. -/
inductive Moves (leaves : Item → Product → Prop) :
    Conveyor Item Product → Conveyor Item Product → Prop where
  | idle (conveyor) : Moves leaves conveyor conveyor
  | accept (conveyor) (item : Item) :
      Moves leaves conveyor
        { conveyor with
          admitted := conveyor.admitted ++ [item]
          waiting := conveyor.waiting ++ [item] }
  | take (conveyor) (item : Item) (rest : List Item) (empty : conveyor.hand = none)
      (next : conveyor.waiting = item :: rest) :
      Moves leaves conveyor
        { conveyor with
          waiting := rest
          hand := some item }
  | finish (conveyor) (item : Item) (product : Product) (held : conveyor.hand = some item)
      (left : leaves item product) :
      Moves leaves conveyor
        { conveyor with
          hand := none
          made := conveyor.made ++ [product] }

inductive Loses : Conveyor Item Product → Conveyor Item Product → Prop where
  | hand (conveyor) (item : Item) (held : conveyor.hand = some item) :
      Loses conveyor { conveyor with hand := none }
  | waiting (conveyor) (kept : List Item) (sublist : kept.Sublist conveyor.waiting)
      (shorter : kept.length < conveyor.waiting.length) :
      Loses conveyor { conveyor with waiting := kept }

/-- What follows the finished items, oldest first. -/
def remaining (conveyor : Conveyor Item Product) : List Item :=
  conveyor.hand.toList ++ conveyor.waiting

/-- The products are those of admitted items, each used once and in their order, and
so is what waits behind them. -/
def InOrder (leaves : Item → Product → Prop) (conveyor : Conveyor Item Product) : Prop :=
  ∃ done, List.Forall₂ leaves done conveyor.made ∧
    (done ++ conveyor.remaining).Sublist conveyor.admitted

/-- Every admitted item is finished, in the hand or waiting. -/
def Complete (leaves : Item → Product → Prop) (conveyor : Conveyor Item Product) : Prop :=
  ∃ done, List.Forall₂ leaves done conveyor.made ∧ done ++ conveyor.remaining = conveyor.admitted

variable {leaves : Item → Product → Prop} {conveyor next : Conveyor Item Product}

theorem Complete.length (complete : conveyor.Complete leaves) :
    conveyor.made.length + conveyor.remaining.length = conveyor.admitted.length := by
  obtain ⟨done, made, same⟩ := complete
  rw [← same, List.length_append, made.length_eq]

/-- A step that loses nothing appends to what is admitted what it appends to the
rest, and moves the boundary of the finished items. -/
theorem Moves.effect (moves : Moves leaves conveyor next) {done : List Item}
    (made : List.Forall₂ leaves done conveyor.made) :
    ∃ finished new, List.Forall₂ leaves finished next.made ∧
      finished ++ next.remaining = done ++ conveyor.remaining ++ new ∧
      next.admitted = conveyor.admitted ++ new := by
  cases moves with
  | idle => exact ⟨done, [], made, (List.append_nil _).symm, (List.append_nil _).symm⟩
  | accept item =>
      refine ⟨done, [item], made, ?_, rfl⟩
      simp only [remaining, List.append_assoc]
  | take item waiting empty behind =>
      refine ⟨done, [], made, ?_, (List.append_nil _).symm⟩
      simp only [remaining, empty, behind, Option.toList_none, Option.toList_some, List.nil_append,
        List.append_nil, List.singleton_append]
  | finish item product held left =>
      refine ⟨done ++ [item], [], ?_, ?_, (List.append_nil _).symm⟩
      · exact List.rel_append made (.cons left .nil)
      · simp only [remaining, held, Option.toList_none, Option.toList_some, List.nil_append,
          List.append_nil, List.append_assoc]

theorem Moves.inOrder (moves : Moves leaves conveyor next) (inOrder : conveyor.InOrder leaves) :
    next.InOrder leaves := by
  obtain ⟨done, made, sublist⟩ := inOrder
  obtain ⟨finished, new, products, same, admitted⟩ := moves.effect made
  refine ⟨finished, products, ?_⟩
  rw [same, admitted]
  exact sublist.append (List.Sublist.refl new)

theorem Moves.complete (moves : Moves leaves conveyor next)
    (complete : conveyor.Complete leaves) : next.Complete leaves := by
  obtain ⟨done, made, same⟩ := complete
  obtain ⟨finished, new, products, step, admitted⟩ := moves.effect made
  exact ⟨finished, products, by rw [step, same, admitted]⟩

theorem Loses.inOrder (loses : Loses conveyor next) (inOrder : conveyor.InOrder leaves) :
    next.InOrder leaves := by
  obtain ⟨done, made, sublist⟩ := inOrder
  cases loses with
  | hand item held =>
      refine ⟨done, made, List.Sublist.trans ?_ sublist⟩
      simp only [remaining, held, Option.toList_none, Option.toList_some, List.nil_append]
      exact (List.Sublist.refl done).append (List.sublist_append_right _ _)
  | waiting kept within shorter =>
      refine ⟨done, made, List.Sublist.trans ?_ sublist⟩
      exact (List.Sublist.refl done).append ((List.Sublist.refl _).append within)

theorem Loses.not_complete (loses : Loses conveyor next)
    (complete : conveyor.Complete leaves) : ¬next.Complete leaves := by
  intro stays
  have before := complete.length
  have after := stays.length
  cases loses with
  | hand item held =>
      simp only [remaining, held, Option.toList_none, Option.toList_some, List.length_append,
        List.length_nil, List.length_singleton] at before after
      omega
  | waiting kept within shorter =>
      simp only [remaining, List.length_append] at before after
      omega

end Conveyor
