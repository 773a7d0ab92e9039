import Mathlib.Data.List.Nodup
import Mathlib.Logic.Function.Basic

/-!
# Storing values at a list of addresses

A memory is a function from addresses to values.  Values are stored one after
the other until they or the addresses run out.  They can be read back where no
address occurs twice.
-/

namespace GvSwitch.Foundation

variable {α β : Type} [DecidableEq α] {memory : α → β}

def store (memory : α → β) : List α → List β → α → β
  | address :: addresses, value :: values =>
    store (Function.update memory address value) addresses values
  | _, _ => memory

@[simp] theorem store_nil_left (memory : α → β) (values : List β) :
    store memory [] values = memory := rfl

@[simp] theorem store_nil_right (memory : α → β) (addresses : List α) :
    store memory addresses [] = memory := by
  cases addresses <;> rfl

theorem store_append (memory : α → β) (first second : List α) (values : List β) :
    store memory (first ++ second) values =
      store (store memory first values) second (values.drop first.length) := by
  induction first generalizing memory values with
  | nil => rfl
  | cons address first ih =>
    cases values with
    | nil => simp
    | cons value values => exact ih (Function.update memory address value) values

theorem store_take (memory : α → β) (addresses : List α) (values : List β) :
    store memory addresses (values.take addresses.length) = store memory addresses values := by
  induction addresses generalizing memory values with
  | nil => rfl
  | cons address rest ih =>
    cases values with
    | nil => rfl
    | cons value values => exact ih (Function.update memory address value) values

theorem store_of_notMem {address : α} {addresses : List α} (h : address ∉ addresses)
    (values : List β) : store memory addresses values address = memory address := by
  induction addresses generalizing memory values with
  | nil => rfl
  | cons first rest ih =>
    have hfst := List.ne_of_not_mem_cons h
    have hrest := List.not_mem_of_not_mem_cons h
    cases values with
    | nil => rfl
    | cons value values =>
      rw [store, ih hrest]
      exact Function.update_of_ne hfst value memory

theorem map_store_of_disjoint {others addresses : List α} (h : others.Disjoint addresses)
    (values : List β) : others.map (store memory addresses values) = others.map memory :=
  List.map_congr_left fun _ hm => store_of_notMem (h hm) values

theorem map_store {addresses : List α} (hnodup : addresses.Nodup) {values : List β}
    (hroom : values.length ≤ addresses.length) :
    (addresses.take values.length).map (store memory addresses values) = values := by
  induction addresses generalizing memory values with
  | nil => simpa using hroom
  | cons address rest ih =>
    obtain ⟨hnew, hrest⟩ := List.nodup_cons.mp hnodup
    cases values with
    | nil => rfl
    | cons value values =>
      rw [List.length_cons, List.take_succ_cons, List.map_cons, store,
        ih hrest (Nat.le_of_succ_le_succ hroom), store_of_notMem hnew,
        Function.update_self]

theorem map_store_middle {before middle behind : List α}
    (hnodup : (before ++ (middle ++ behind)).Nodup) {values : List β}
    (hlen : values.length = middle.length) :
    (before ++ (middle ++ behind)).map (store memory middle values) =
      before.map memory ++ (values ++ behind.map memory) := by
  obtain ⟨-, hlater, hb⟩ := List.nodup_append'.mp hnodup
  obtain ⟨hmiddle, -, hbehind⟩ := List.nodup_append'.mp hlater
  have hpl := @map_store _ _ _ memory _ hmiddle _ (Nat.le_of_eq hlen)
  rw [hlen, List.take_length] at hpl
  rw [List.map_append, List.map_append, hpl,
    map_store_of_disjoint (List.disjoint_append_right.mp hb).1,
    map_store_of_disjoint (List.disjoint_comm.mp hbehind)]

end GvSwitch.Foundation
