import TutorialKit.Editing.Listeners

/-!
# Subscriptions

A registry keeps a counter and its listeners; those who use it see numbers, answers and notices.  A
record of what has been asked and answered says by itself who is subscribed: every listener that has
been given a number which has not been cancelled since.  Whatever is asked of a registry, in
whatever order and with whatever numbers, no number is given twice, and every answer is the one that
the record calls for.
-/

namespace TutorialKit

inductive ListenerRequest (α ε : Type) where
  | subscribe (listener : α)
  | unsubscribe (id : Nat)
  | notify (event : ε)

inductive ListenerDeed (α ε : Type) where
  | subscribed (listener : α) (id : Nat)
  | unsubscribed (id : Nat) (found : Bool)
  | notified (event : ε) (notices : List (α × ε))

variable {α ε : Type}

namespace ListenerDeed

def request : ListenerDeed α ε -> ListenerRequest α ε
  | subscribed listener _ => .subscribe listener
  | unsubscribed id _ => .unsubscribe id
  | notified event _ => .notify event

def subscription? : ListenerDeed α ε -> Option (Nat × α)
  | subscribed listener id => some (id, listener)
  | _ => none

def cancels (id : Nat) : ListenerDeed α ε -> Bool
  | unsubscribed other _ => other == id
  | _ => false

/-!
# Records

A record says by itself who is subscribed, and what the next answer has to be.
-/

def subscriptions (record : List (ListenerDeed α ε)) : List (Nat × α) :=
  record.filterMap subscription?

def numbers (record : List (ListenerDeed α ε)) : List Nat :=
  (subscriptions record).map Prod.fst

/-- The subscriptions that nothing later in the record cancels. -/
def standing : List (ListenerDeed α ε) -> List (Nat × α)
  | [] => []
  | subscribed listener id :: later =>
      if later.any (cancels id) then standing later else (id, listener) :: standing later
  | _ :: later => standing later

theorem numbers_concat (record : List (ListenerDeed α ε)) (deed : ListenerDeed α ε) :
    numbers (record ++ [deed]) = numbers record ++ (deed.subscription?.map Prod.fst).toList := by
  cases deed with
  | subscribed listener id => simp [numbers, subscriptions, subscription?]
  | unsubscribed id found => simp [numbers, subscriptions, subscription?]
  | notified event notices => simp [numbers, subscriptions, subscription?]

theorem standing_append (record more : List (ListenerDeed α ε)) :
    standing (record ++ more) =
      (standing record).filter (fun entry => !more.any (cancels entry.1)) ++ standing more := by
  induction record with
  | nil => rfl
  | cons deed later ih =>
      cases deed with
      | subscribed listener id =>
          rw [List.cons_append, standing, standing, List.any_append, ih]
          cases hlater : later.any (cancels id) with
          | true => simp
          | false => cases hmore : more.any (cancels id) <;> simp [hmore]
      | unsubscribed id found => exact ih
      | notified event notices => exact ih

theorem standing_sublist (record : List (ListenerDeed α ε)) :
    (standing record).Sublist (subscriptions record) := by
  induction record with
  | nil => exact List.Sublist.refl []
  | cons deed later ih =>
      cases deed with
      | subscribed listener id =>
          change List.Sublist _ ((id, listener) :: subscriptions later)
          rw [standing]
          split
          · exact ih.cons (id, listener)
          · exact ih.cons_cons (id, listener)
      | unsubscribed id found => exact ih
      | notified event notices => exact ih

theorem standing_subscribed (record : List (ListenerDeed α ε)) (listener : α) (id : Nat) :
    standing (record ++ [subscribed listener id]) = standing record ++ [(id, listener)] := by
  simp [standing_append, standing, cancels]

theorem standing_unsubscribed (record : List (ListenerDeed α ε)) (id : Nat) (found : Bool) :
    standing (record ++ [unsubscribed id found]) =
      (standing record).filter fun entry => entry.1 != id := by
  have hcancels (other : Nat) : (other != id) = !(id == other) := by
    rw [bne, Bool.beq_comm]
  simp [standing_append, standing, cancels, hcancels]

theorem standing_notified (record : List (ListenerDeed α ε)) (event : ε)
    (notices : List (α × ε)) : standing (record ++ [notified event notices]) = standing record := by
  simp [standing_append, standing, cancels]

/-- What a deed has to be, given the record of all earlier ones. -/
def Exact (record : List (ListenerDeed α ε)) : ListenerDeed α ε -> Prop
  | subscribed _ id => id ∉ numbers record
  | unsubscribed id true =>
      exists front listener back, standing record = front ++ (id, listener) :: back ∧
        standing (record ++ [unsubscribed id true]) = front ++ back
  | unsubscribed id false =>
      (forall listener, (id, listener) ∉ standing record) ∧
        standing (record ++ [unsubscribed id false]) = standing record
  | notified event notices =>
      notices = (standing record).map fun entry => (entry.2, event)

end ListenerDeed

namespace Listeners

open ListenerDeed

/-!
# Requests to a registry

A request is recorded with its answer.
-/

def serve (listeners : Listeners α) : ListenerRequest α ε -> Listeners α × ListenerDeed α ε
  | .subscribe listener => (listeners.subscribe listener, .subscribed listener listeners.nextId)
  | .unsubscribe id =>
      let rest := listeners.unsubscribe id
      (rest, .unsubscribed id (rest.size != listeners.size))
  | .notify event => (listeners, .notified event (listeners.notify event))

def after (listeners : Listeners α) (requests : List (ListenerRequest α ε)) : Listeners α :=
  requests.foldl (fun listeners request => (listeners.serve request).1) listeners

def record (listeners : Listeners α) :
    List (ListenerRequest α ε) -> List (ListenerDeed α ε)
  | [] => []
  | request :: more =>
      (listeners.serve request).2 :: record (listeners.serve request).1 more

theorem record_concat (listeners : Listeners α) (requests : List (ListenerRequest α ε))
    (request : ListenerRequest α ε) :
    listeners.record (requests ++ [request]) =
      listeners.record requests ++ [((listeners.after requests).serve request).2] := by
  induction requests generalizing listeners with
  | nil => rfl
  | cons first more ih =>
      rw [List.cons_append, record, record, ih]
      rfl

theorem request_serve (listeners : Listeners α) (request : ListenerRequest α ε) :
    (listeners.serve request).2.request = request := by
  cases request with
  | subscribe listener => rfl
  | unsubscribe id => rfl
  | notify event => rfl

theorem request_record (listeners : Listeners α) (requests : List (ListenerRequest α ε)) :
    (listeners.record requests).map request = requests := by
  induction requests generalizing listeners with
  | nil => rfl
  | cons first more ih => rw [record, List.map_cons, request_serve, ih]

theorem size_unsubscribe_bne (listeners : Listeners α) (id : Nat) :
    ((listeners.unsubscribe id).size != listeners.size) = listeners.isSubscribed id := by
  rw [Bool.eq_iff_iff, bne_iff_ne, isSubscribed, List.any_eq_true]
  unfold size unsubscribe
  rw [Ne, List.length_filter_eq_length_iff]
  simp

/-!
# What a registry remembers

Each request keeps what the registry remembers, and so does a run of them.
-/

/-- A registry holds what stands in its record, and its counter is above all numbers there. -/
structure Remembers (listeners : Listeners α) (record : List (ListenerDeed α ε)) : Prop where
  entries : listeners.entries = standing record
  numbers : numbers record = List.range listeners.nextId

namespace Remembers

variable {listeners : Listeners α} {record : List (ListenerDeed α ε)}

theorem serve (h : listeners.Remembers record) (request : ListenerRequest α ε) :
    (listeners.serve request).1.Remembers (record ++ [(listeners.serve request).2]) := by
  cases request with
  | subscribe listener =>
      constructor
      · change listeners.entries ++ [(listeners.nextId, listener)] = standing (record ++ [_])
        rw [h.entries, Listeners.serve, standing_subscribed]
      · change ListenerDeed.numbers (record ++ [_]) = List.range (listeners.nextId + 1)
        rw [numbers_concat, h.numbers, List.range_succ]
        rfl
  | unsubscribe id =>
      constructor
      · change listeners.entries.filter _ = standing (record ++ [_])
        rw [h.entries, Listeners.serve, standing_unsubscribed]
      · change ListenerDeed.numbers (record ++ [_]) = List.range listeners.nextId
        rw [numbers_concat, h.numbers]
        exact List.append_nil _
  | notify event =>
      constructor
      · change listeners.entries = standing (record ++ [_])
        rw [h.entries, Listeners.serve, standing_notified]
      · change ListenerDeed.numbers (record ++ [_]) = List.range listeners.nextId
        rw [numbers_concat, h.numbers]
        exact List.append_nil _

theorem nodup_numbers (h : listeners.Remembers record) : (ListenerDeed.numbers record).Nodup := by
  rw [h.numbers]
  exact List.nodup_range

theorem filter_standing (h : listeners.Remembers record) {id : Nat} {listener : α}
    {front back : List (Nat × α)} (hstanding : standing record = front ++ (id, listener) :: back) :
    ((standing record).filter fun entry => entry.1 != id) = front ++ back := by
  have hnodup : ((standing record).map Prod.fst).Nodup :=
    h.nodup_numbers.sublist ((standing_sublist record).map Prod.fst)
  rw [hstanding, List.map_append, List.map_cons, List.nodup_append, List.nodup_cons] at hnodup
  rcases hnodup with ⟨-, ⟨hback, -⟩, hfront⟩
  rw [hstanding, List.filter_append, List.filter_cons_of_neg (by simp)]
  congr 1
  · apply List.filter_eq_self.mpr
    intro entry hentry
    rw [bne_iff_ne]
    exact hfront entry.1 (List.mem_map_of_mem hentry) id List.mem_cons_self
  · apply List.filter_eq_self.mpr
    intro entry hentry
    rw [bne_iff_ne]
    intro hid
    exact hback (List.mem_map.mpr ⟨entry, hentry, hid⟩)

theorem exact_unsubscribe (h : listeners.Remembers record) (id : Nat) :
    Exact record (.unsubscribed id (listeners.isSubscribed id) : ListenerDeed α ε) := by
  cases hsubscribed : listeners.isSubscribed id with
  | true =>
      rw [isSubscribed, List.any_eq_true, h.entries] at hsubscribed
      rcases hsubscribed with ⟨⟨number, listener⟩, hentry, hnumber⟩
      cases eq_of_beq hnumber
      rcases List.append_of_mem hentry with ⟨front, back, hstanding⟩
      refine ⟨front, listener, back, hstanding, ?_⟩
      rw [standing_unsubscribed]
      exact h.filter_standing hstanding
  | false =>
      rw [isSubscribed, List.any_eq_false, h.entries] at hsubscribed
      constructor
      · intro listener hentry
        exact hsubscribed (id, listener) hentry (beq_self_eq_true id)
      · rw [standing_unsubscribed]
        apply List.filter_eq_self.mpr
        intro entry hentry
        rw [bne_iff_ne]
        rintro rfl
        exact hsubscribed entry hentry (beq_self_eq_true entry.1)

theorem exact_serve (h : listeners.Remembers record) (request : ListenerRequest α ε) :
    Exact record (listeners.serve request).2 := by
  cases request with
  | subscribe listener =>
      change listeners.nextId ∉ ListenerDeed.numbers record
      rw [h.numbers]
      exact List.not_mem_range_self
  | unsubscribe id =>
      rw [Listeners.serve, size_unsubscribe_bne]
      exact h.exact_unsubscribe id
  | notify event =>
      change listeners.notify event = (standing record).map _
      rw [notify, h.entries]

theorem after (h : listeners.Remembers record) (requests : List (ListenerRequest α ε)) :
    (listeners.after requests).Remembers (record ++ listeners.record requests) := by
  induction requests generalizing listeners record with
  | nil =>
      rw [Listeners.record, List.append_nil]
      exact h
  | cons first more ih =>
      have hmore := ih (h.serve first)
      rwa [List.append_assoc] at hmore

end Remembers

theorem remembers_after (requests : List (ListenerRequest α ε)) :
    ((none : Listeners α).after requests).Remembers ((none : Listeners α).record requests) := by
  have hnew : (none : Listeners α).Remembers ([] : List (ListenerDeed α ε)) := ⟨rfl, rfl⟩
  exact hnew.after requests

/--
After any requests to a new registry, its listeners are the standing subscriptions of the record,
no number occurs twice in it, and whatever is asked next gets the exact answer.
-/
theorem registry_exact (requests : List (ListenerRequest α ε)) (request : ListenerRequest α ε) :
    let listeners := (none : Listeners α).after requests
    let record := (none : Listeners α).record requests
    let next := (listeners.serve request).2
    (none : Listeners α).record (requests ++ [request]) = record ++ [next] ∧
      record.map ListenerDeed.request = requests ∧ next.request = request ∧
      listeners.entries = standing record ∧ (numbers record).Nodup ∧ Exact record next := by
  intro listeners record next
  have hremembers := remembers_after (α := α) requests
  refine ⟨record_concat _ requests request, request_record _ requests,
    request_serve listeners request, hremembers.entries, hremembers.nodup_numbers, ?_⟩
  exact hremembers.exact_serve request

/-- The number 0 is cancelled once and not given again. -/
example :
    (none : Listeners String).record
      [.subscribe "first", .subscribe "second", .unsubscribe 0, .unsubscribe 0, .subscribe "third",
        .notify "event"] =
      [.subscribed "first" 0, .subscribed "second" 1, .unsubscribed 0 true, .unsubscribed 0 false,
        .subscribed "third" 2, .notified "event" [("second", "event"), ("third", "event")]] := rfl

end Listeners

end TutorialKit
