/-
  Foundation/Channel.lean --- a sender that does not wait, and a bounded channel.

  The sender reads inputs, turns each into items and offers these to a channel one by one;
  an item that the channel refuses is dropped.  A consumer takes items at its own pace, and
  may close the channel.  Sender and consumer move in any order, also between two items of
  one input.

  Whatever the order: what the consumer has taken and what waits for it are the items that
  were accepted, in the order in which they arrived.  When the channel is never full or
  closed at an offer, these are all items.
-/
import GeSensor.Foundation.Checked
import GeSensor.Foundation.Reachable

set_option autoImplicit false

namespace GeSensor.Foundation

/-! ## Channels -/

/-- A bounded channel: the items that wait, and whether the consumer has closed it. -/
structure Channel (Item : Type) where
  capacity : Nat
  queue : List Item := []
  closed : Bool := false
  deriving DecidableEq, Repr

section

variable {Input Item : Type}

/-- The channel accepts an item. -/
def Channel.hasRoom (channel : Channel Item) : Bool :=
  !channel.closed && channel.queue.length < channel.capacity

/-- `sender.try_send(item)`. -/
def Channel.trySend (channel : Channel Item) (item : Item) : Option (Channel Item) :=
  if channel.hasRoom then some { channel with queue := channel.queue ++ [item] } else none

/-- A sender with its channel.  The inputs, what was offered, with the answer, and what was
taken are kept for the statements only. -/
structure Feed (Input Item : Type) where
  channel : Channel Item
  /-- the items of the current input that are still to be offered -/
  pending : List Item := []
  /-- inputs read -/
  received : Nat := 0
  /-- items refused -/
  dropped : Nat := 0
  inputs : List Input := []
  offered : List (Item × Bool) := []
  taken : List Item := []
  deriving DecidableEq, Repr

/-- A move of the sender or of the consumer. -/
inductive FeedLabel (Input : Type) where
  /-- the sender reads an input -/
  | read (input : Input)
  /-- it offers the next item -/
  | offer
  /-- the consumer takes an item -/
  | take
  | close
  deriving DecidableEq, Repr

namespace Feed

def start (capacity : Nat) : Feed Input Item where
  channel := { capacity := capacity }

/-- One move; `none` when it is not possible. -/
def step (decode : Input → Checked (List Item)) (feed : Feed Input Item) :
    FeedLabel Input → Option (Feed Input Item)
  | .read input =>
      match feed.pending, decode input with
      | [], .ok items =>
          some { feed with
            pending := items
            received := feed.received + 1
            inputs := feed.inputs ++ [input] }
      | _, _ => none
  | .offer =>
      match feed.pending with
      | [] => none
      | item :: rest =>
          match feed.channel.trySend item with
          | some channel =>
              some { feed with
                channel := channel
                pending := rest
                offered := feed.offered ++ [(item, true)] }
          | none =>
              some { feed with
                pending := rest
                dropped := feed.dropped + 1
                offered := feed.offered ++ [(item, false)] }
  | .take =>
      match feed.channel.queue with
      | [] => none
      | item :: rest =>
          some { feed with
            channel := { feed.channel with queue := rest }
            taken := feed.taken ++ [item] }
  | .close => some { feed with channel := { feed.channel with closed := true } }

/-- The items that were accepted, in order. -/
def accepted (feed : Feed Input Item) : List Item := (feed.offered.filter (·.2)).map (·.1)

/-! ## What a move does -/

/-- Everything that a move can do. -/
inductive Moves (decode : Input → Checked (List Item)) (feed : Feed Input Item) :
    FeedLabel Input → Feed Input Item → Prop
  | read {input : Input} {items : List Item} : feed.pending = [] → decode input = .ok items →
      Moves decode feed (.read input) { feed with
        pending := items, received := feed.received + 1, inputs := feed.inputs ++ [input] }
  | accept {item : Item} {rest : List Item} : feed.pending = item :: rest →
      feed.channel.hasRoom = true →
      Moves decode feed .offer { feed with
        channel := { feed.channel with queue := feed.channel.queue ++ [item] }
        pending := rest
        offered := feed.offered ++ [(item, true)] }
  | refuse {item : Item} {rest : List Item} : feed.pending = item :: rest →
      feed.channel.hasRoom = false →
      Moves decode feed .offer { feed with
        pending := rest
        dropped := feed.dropped + 1
        offered := feed.offered ++ [(item, false)] }
  | take {item : Item} {rest : List Item} : feed.channel.queue = item :: rest →
      Moves decode feed .take { feed with
        channel := { feed.channel with queue := rest }, taken := feed.taken ++ [item] }
  | close : Moves decode feed .close { feed with
        channel := { feed.channel with closed := true } }

variable {decode : Input → Checked (List Item)} {feed next : Feed Input Item} {label : FeedLabel Input}

theorem moves_of_step (h : feed.step decode label = some next) : feed.Moves decode label next := by
  cases label with
  | read input =>
      rw [step] at h
      split at h
      · rename_i hpending hdecode
        cases h
        exact .read hpending hdecode
      · cases h
  | offer =>
      rw [step] at h
      split at h
      · cases h
      · rename_i item rest hpending
        cases hroom : feed.channel.hasRoom with
        | true =>
            rw [Channel.trySend, hroom, if_pos rfl] at h
            cases h
            exact .accept hpending hroom
        | false =>
            rw [Channel.trySend, hroom, if_neg Bool.false_ne_true] at h
            cases h
            exact .refuse hpending hroom
  | take =>
      rw [step] at h
      split at h
      · cases h
      · rename_i item rest hqueue
        cases h
        exact .take hqueue
  | close =>
      cases h
      exact .close

/-! ## What is kept -/

/-- The items of the inputs are delivered, waiting, refused or still to be offered, in order,
and the counters are true. -/
structure Accounted (decode : Input → Checked (List Item)) (capacity : Nat)
    (feed : Feed Input Item) : Prop where
  capacity_eq : feed.channel.capacity = capacity
  length_le : feed.channel.queue.length ≤ capacity
  received : feed.received = feed.inputs.length
  arrived : ∃ parts, feed.inputs.mapM decode = .ok parts ∧
    parts.flatten = feed.offered.map (·.1) ++ feed.pending
  accepted : feed.accepted = feed.taken ++ feed.channel.queue
  dropped : feed.dropped = feed.offered.countP fun offer => !offer.2

theorem accounted_start (decode : Input → Checked (List Item)) (capacity : Nat) :
    Accounted decode capacity (start capacity) :=
  ⟨rfl, Nat.zero_le _, rfl, ⟨[], rfl, rfl⟩, rfl, rfl⟩

/-- The step lemma. -/
theorem Accounted.step {capacity : Nat} (h : Accounted decode capacity feed)
    (hmove : feed.Moves decode label next) : Accounted decode capacity next := by
  obtain ⟨hcapacity, hlength, hreceived, ⟨parts, hparts, harrived⟩, haccepted, hdropped⟩ := h
  cases hmove with
  | @read input items hpending hdecode =>
      refine ⟨hcapacity, hlength, ?_, ⟨parts ++ [items], ?_, ?_⟩, haccepted, hdropped⟩
      · dsimp only
        rw [hreceived, List.length_append, List.length_singleton]
      · dsimp only
        rw [List.mapM_append, hparts, List.mapM_cons, hdecode]
        rfl
      · rw [List.flatten_append, harrived, hpending, List.append_nil, List.flatten_singleton]
  | @accept item rest hpending hroom =>
      rw [Channel.hasRoom, Bool.and_eq_true, decide_eq_true_eq] at hroom
      refine ⟨hcapacity, ?_, hreceived, ⟨parts, hparts, ?_⟩, ?_, ?_⟩
      · dsimp only
        rw [List.length_append, List.length_singleton, ← hcapacity]
        exact hroom.2
      · dsimp only
        rw [harrived, hpending, List.map_append, List.append_assoc]
        rfl
      · rw [Feed.accepted] at haccepted ⊢
        dsimp only
        rw [List.filter_append, List.map_append, haccepted, List.append_assoc]
        rfl
      · dsimp only
        rw [hdropped, List.countP_append]
        rfl
  | @refuse item rest hpending hroom =>
      refine ⟨hcapacity, hlength, hreceived, ⟨parts, hparts, ?_⟩, ?_, ?_⟩
      · dsimp only
        rw [harrived, hpending, List.map_append, List.append_assoc]
        rfl
      · rw [Feed.accepted] at haccepted ⊢
        dsimp only
        rw [List.filter_append, List.map_append, haccepted]
        exact List.append_nil _
      · dsimp only
        rw [hdropped, List.countP_append]
        rfl
  | take hqueue =>
      refine ⟨hcapacity, ?_, hreceived, ⟨parts, hparts, harrived⟩, ?_, hdropped⟩
      · rw [hqueue] at hlength
        exact Nat.le_of_succ_le hlength
      · rw [hqueue] at haccepted
        rw [Feed.accepted] at haccepted ⊢
        dsimp only
        rw [haccepted, List.append_assoc]
        rfl
  | close => exact ⟨hcapacity, hlength, hreceived, ⟨parts, hparts, harrived⟩, haccepted, hdropped⟩

/-- The run lemma. -/
theorem accounted_of_reachable {allowed : Feed Input Item → FeedLabel Input → Prop}
    {capacity : Nat} (h : ReachableBy (Feed.step decode) allowed (start capacity) feed) :
    Accounted decode capacity feed :=
  h.invariant (Accounted decode capacity) (accounted_start decode capacity)
    fun hstate _ hstep => hstate.step (moves_of_step hstep)

namespace Accounted

variable {capacity : Nat} {parts : List (List Item)}

theorem arrived_of_mapM (h : Accounted decode capacity feed)
    (hparts : feed.inputs.mapM decode = .ok parts) :
    parts.flatten = feed.offered.map (·.1) ++ feed.pending := by
  obtain ⟨others, hothers, harrived⟩ := h.arrived
  cases hparts.symm.trans hothers
  exact harrived

/-- Items are delivered in order, and none twice. -/
theorem sublist (h : Accounted decode capacity feed)
    (hparts : feed.inputs.mapM decode = .ok parts) :
    (feed.taken ++ feed.channel.queue).Sublist parts.flatten := by
  rw [← h.accepted, h.arrived_of_mapM hparts]
  exact (List.filter_sublist.map _).trans (List.sublist_append_left _ _)

/-- Every item is delivered, waiting, dropped or still to be offered. -/
theorem total (h : Accounted decode capacity feed)
    (hparts : feed.inputs.mapM decode = .ok parts) :
    feed.taken.length + feed.channel.queue.length + feed.dropped + feed.pending.length =
      parts.flatten.length := by
  have hsplit : feed.accepted.length + feed.dropped = feed.offered.length := by
    rw [h.dropped, Feed.accepted, List.length_map, ← List.countP_eq_length_filter,
      List.length_eq_countP_add_countP (fun offer : Item × Bool => offer.2)]
    refine congrArg _ (List.countP_congr fun offer _ => ?_)
    simp
  rw [h.accepted, List.length_append] at hsplit
  rw [h.arrived_of_mapM hparts, List.length_append, List.length_map]
  omega

end Accounted

/-! ## When nothing is lost -/

/-- A consumer that keeps up: whenever an item is offered, there is room for it. -/
def KeepsUp (feed : Feed Input Item) (label : FeedLabel Input) : Prop :=
  label = .offer → feed.channel.hasRoom = true

instance [DecidableEq Input] (feed : Feed Input Item) (label : FeedLabel Input) :
    Decidable (KeepsUp feed label) :=
  inferInstanceAs (Decidable (_ → _))

/-- With a consumer that keeps up every item is delivered, in order. -/
theorem lossless_of_keepsUp {capacity : Nat} {parts : List (List Item)}
    (h : ReachableBy (Feed.step decode) KeepsUp (start capacity) feed)
    (hparts : feed.inputs.mapM decode = .ok parts) :
    feed.dropped = 0 ∧ feed.taken ++ feed.channel.queue ++ feed.pending = parts.flatten := by
  have hall : ∀ offer ∈ feed.offered, offer.2 = true := by
    refine h.invariant (fun feed => ∀ offer ∈ feed.offered, offer.2 = true)
      (fun _ hmem => absurd hmem List.not_mem_nil) fun hstate hallowed hstep => ?_
    cases moves_of_step hstep with
    | read _ _ => exact hstate
    | accept _ _ =>
        intro offer hmem
        rcases List.mem_append.mp hmem with hmem | hmem
        · exact hstate offer hmem
        · rw [List.mem_singleton.mp hmem]
    | refuse _ hroom => exact absurd (hallowed rfl) (by rw [hroom]; exact Bool.false_ne_true)
    | take _ => exact hstate
    | close => exact hstate
  have haccounted := accounted_of_reachable h
  have haccepted : feed.accepted = feed.offered.map (·.1) := by
    rw [Feed.accepted, List.filter_eq_self.mpr hall]
  refine ⟨?_, ?_⟩
  · rw [haccounted.dropped, List.countP_eq_zero]
    intro offer hmem
    rw [hall offer hmem]
    exact Bool.false_ne_true
  · rw [haccounted.arrived_of_mapM hparts, ← haccepted, haccounted.accepted]

/-- Inputs that were encoded for the sender: what it is to report of them is delivered. -/
theorem delivers_encoded {Message : Type} {encode : Message → Input} {report : Message → List Item}
    {capacity : Nat} {messages : List Message}
    (hdecode : ∀ message, decode (encode message) = .ok (report message))
    (h : ReachableBy (Feed.step decode) KeepsUp (start capacity) feed)
    (hinputs : feed.inputs = messages.map encode) :
    feed.dropped = 0 ∧
      feed.taken ++ feed.channel.queue ++ feed.pending = messages.flatMap report := by
  have hparts : feed.inputs.mapM decode = .ok (messages.map report) := by
    rw [hinputs, List.mapM_map]
    exact mapM_eq_ok fun message _ => hdecode message
  rw [List.flatMap_def]
  exact lossless_of_keepsUp h hparts

end Feed

end

end GeSensor.Foundation
