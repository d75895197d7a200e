import Mathlib.Data.List.Basic
import Mathlib.Order.Nat

/-!
# Broadcast channels

Nodes join a channel and post messages on it.  A message goes to every other
node that listens at that moment.  A receiver takes the messages of one sender
in the order of their posting, those of different senders in any order.
-/

namespace ShoppingWeb.Broadcast

variable {Message : Type*}

/-- A channel and its history.  Nodes are numbered as they join; no operation
reads the history. -/
structure Channel (Message : Type*) where
  listening : List Bool
  /-- From a sender to a receiver. -/
  inFlight : ℕ → ℕ → List Message
  posted : ℕ → List Message
  /-- How many messages of a sender were posted before a receiver joined. -/
  missed : ℕ → ℕ → ℕ
  /-- What a receiver has taken of a sender. -/
  arrived : ℕ → ℕ → List Message

namespace Channel

def new : Channel Message := ⟨[], fun _ _ => [], fun _ => [], fun _ _ => 0, fun _ _ => []⟩

def Listens (channel : Channel Message) (node : ℕ) : Prop := channel.listening[node]? = some true

instance (channel : Channel Message) (node : ℕ) : Decidable (channel.Listens node) :=
  inferInstanceAs (Decidable (_ = _))

def join (channel : Channel Message) : Channel Message :=
  { channel with
    listening := channel.listening ++ [true]
    missed := fun receiver sender =>
      if receiver = channel.listening.length then (channel.posted sender).length
      else channel.missed receiver sender }

/-- What is on its way to a node that leaves is dropped. -/
def leave (channel : Channel Message) (node : ℕ) : Channel Message :=
  { channel with
    listening := channel.listening.set node false
    inFlight := fun sender receiver =>
      if receiver = node then [] else channel.inFlight sender receiver }

def post (channel : Channel Message) (node : ℕ) (message : Message) : Option (Channel Message) :=
  if channel.Listens node then
    some
      { channel with
        inFlight := fun sender receiver =>
          if sender = node ∧ receiver ≠ node ∧ channel.Listens receiver then
            channel.inFlight sender receiver ++ [message]
          else channel.inFlight sender receiver
        posted := fun sender =>
          if sender = node then channel.posted sender ++ [message] else channel.posted sender }
  else none

/-- The receiver takes the oldest message of the sender. -/
def take (channel : Channel Message) (source target : ℕ) : Option (Message × Channel Message) :=
  match channel.inFlight source target with
  | [] => none
  | message :: rest =>
      some (message,
        { channel with
          inFlight := fun sender receiver =>
            if sender = source ∧ receiver = target then rest else channel.inFlight sender receiver
          arrived := fun receiver sender =>
            if sender = source ∧ receiver = target then channel.arrived receiver sender ++ [message]
            else channel.arrived receiver sender })

/-- What has arrived of a sender, and then what is on its way, is what the
sender has posted since the receiver joined. -/
structure Exact (channel : Channel Message) : Prop where
  exact : ∀ receiver sender, channel.Listens receiver → sender ≠ receiver →
    channel.arrived receiver sender ++ channel.inFlight sender receiver =
      (channel.posted sender).drop (channel.missed receiver sender)
  missed_le : ∀ receiver sender,
    channel.missed receiver sender ≤ (channel.posted sender).length
  nothing : ∀ receiver sender, ¬ channel.Listens receiver →
    channel.inFlight sender receiver = []
  own : ∀ node, channel.inFlight node node = []
  unborn : ∀ node, channel.listening.length ≤ node →
    channel.posted node = [] ∧ ∀ sender, channel.arrived node sender = []

theorem exact_new : (new : Channel Message).Exact where
  exact _ _ hlistens := by cases hlistens
  missed_le _ _ := le_rfl
  nothing _ _ _ := rfl
  own _ := rfl
  unborn _ _ := ⟨rfl, fun _ => rfl⟩

section Operations

variable {channel : Channel Message} {node : ℕ}

theorem listens_lt (hlistens : channel.Listens node) : node < channel.listening.length :=
  (List.getElem?_eq_some_iff.mp hlistens).1

theorem listens_join {node : ℕ} :
    channel.join.Listens node ↔ channel.Listens node ∨ node = channel.listening.length := by
  rw [Listens, join, List.getElem?_append]
  split
  · rename_i hlt
    exact ⟨Or.inl, fun h => h.resolve_right hlt.ne⟩
  · rename_i hge
    rw [List.getElem?_singleton]
    constructor
    · intro hnew
      exact Or.inr (by split_ifs at hnew with hzero; omega)
    · rintro (hold | rfl)
      · exact absurd (listens_lt hold) hge
      · simp

theorem exact_join (hexact : channel.Exact) : channel.join.Exact where
  exact receiver sender hlistens hne := by
    simp only [join]
    split
    · rename_i hnew
      -- Nothing has arrived at, or is on its way to, a node that has only just joined.
      have hsilent : ¬ channel.Listens receiver := fun h => absurd (listens_lt h) (by omega)
      rw [(hexact.unborn receiver hnew.ge).2, hexact.nothing _ _ hsilent, List.drop_length]
      rfl
    · rename_i hold
      exact hexact.exact receiver sender ((listens_join.mp hlistens).resolve_right hold) hne
  missed_le receiver sender := by
    simp only [join]
    split
    · exact le_rfl
    · exact hexact.missed_le receiver sender
  nothing receiver sender hsilent :=
    hexact.nothing receiver sender fun h => hsilent (listens_join.mpr (.inl h))
  own := hexact.own
  unborn node hnode := by
    simp only [join, List.length_append, List.length_singleton] at hnode
    exact hexact.unborn node (by omega)

theorem listens_leave {other : ℕ} :
    (channel.leave node).Listens other ↔ channel.Listens other ∧ other ≠ node := by
  simp only [Listens, leave, List.getElem?_set]
  split
  · rename_i heq
    subst heq
    simp
  · rename_i hne
    exact ⟨fun h => ⟨h, Ne.symm hne⟩, And.left⟩

theorem exact_leave (hexact : channel.Exact) (node : ℕ) : (channel.leave node).Exact where
  exact receiver sender hlistens hne := by
    obtain ⟨hold, hother⟩ := listens_leave.mp hlistens
    simp only [leave, if_neg hother]
    exact hexact.exact receiver sender hold hne
  missed_le := hexact.missed_le
  nothing receiver sender hsilent := by
    simp only [leave]
    split
    · rfl
    · rename_i hother
      exact hexact.nothing receiver sender fun h => hsilent (listens_leave.mpr ⟨h, hother⟩)
  own other := by
    simp only [leave]
    split
    · rfl
    · exact hexact.own other
  unborn node hnode := hexact.unborn node (by simpa [leave] using hnode)

theorem exact_post (hexact : channel.Exact) {message : Message} {next : Channel Message}
    (hpost : channel.post node message = some next) : next.Exact := by
  obtain ⟨hnode, hnext⟩ := Option.ite_none_right_eq_some.mp hpost
  obtain rfl := Option.some.inj hnext
  constructor
  · intro receiver sender hlistens hne
    have hold := hexact.exact receiver sender hlistens hne
    simp only
    by_cases hsender : sender = node
    · subst hsender
      have hreaches : sender = sender ∧ receiver ≠ sender ∧ channel.Listens receiver :=
        ⟨rfl, hne.symm, hlistens⟩
      rw [if_pos hreaches, if_pos rfl, ← List.append_assoc, hold,
        List.drop_append_of_le_length (hexact.missed_le receiver sender)]
    · rw [if_neg (fun h => hsender h.1), if_neg hsender, hold]
  · intro receiver sender
    have hold := hexact.missed_le receiver sender
    simp only
    split
    · rw [List.length_append]
      exact hold.trans (Nat.le_add_right _ _)
    · exact hold
  · intro receiver sender hsilent
    simp only
    rw [if_neg fun h => hsilent h.2.2]
    exact hexact.nothing receiver sender hsilent
  · intro other
    simp only
    rw [if_neg fun h => h.2.1 h.1]
    exact hexact.own other
  · intro unborn hunborn
    have hne : unborn ≠ node := by
      have hlt := listens_lt hnode
      have hge : channel.listening.length ≤ unborn := hunborn
      omega
    simp only [if_neg hne]
    exact hexact.unborn unborn hunborn

/-- A message that is taken was on its way from another node. -/
theorem take_spec (hexact : channel.Exact) {source target : ℕ} {message : Message}
    {next : Channel Message} (htake : channel.take source target = some (message, next)) :
    source ≠ target ∧ channel.Listens target ∧ next.listening = channel.listening ∧
      next.posted = channel.posted ∧
      next.arrived target source = channel.arrived target source ++ [message] ∧
      ∀ receiver sender, (sender ≠ source ∨ receiver ≠ target) →
        next.arrived receiver sender = channel.arrived receiver sender := by
  rw [take] at htake
  split at htake
  · cases htake
  · rename_i rest hflight
    obtain ⟨rfl, rfl⟩ := Prod.mk.inj (Option.some.inj htake)
    refine ⟨?_, ?_, rfl, rfl, if_pos ⟨rfl, rfl⟩, fun receiver sender hne => if_neg ?_⟩
    · rintro rfl
      rw [hexact.own] at hflight
      cases hflight
    · by_contra hsilent
      rw [hexact.nothing target source hsilent] at hflight
      cases hflight
    · rintro ⟨hsource, htarget⟩
      exact hne.elim (absurd hsource) (absurd htarget)

theorem exact_take (hexact : channel.Exact) {source target : ℕ} {message : Message}
    {next : Channel Message} (htake : channel.take source target = some (message, next)) :
    next.Exact := by
  obtain ⟨-, htarget, -⟩ := take_spec hexact htake
  rw [take] at htake
  split at htake
  · cases htake
  · rename_i rest hflight
    obtain ⟨rfl, rfl⟩ := Prod.mk.inj (Option.some.inj htake)
    constructor
    · intro receiver sender hlistens hne
      have hold := hexact.exact receiver sender hlistens hne
      simp only
      split
      · rename_i hpair
        obtain ⟨rfl, rfl⟩ := hpair
        rw [List.append_assoc, ← hold, hflight]
        rfl
      · exact hold
    · exact hexact.missed_le
    · intro receiver sender hsilent
      simp only
      rw [if_neg]
      · exact hexact.nothing receiver sender hsilent
      · rintro ⟨-, rfl⟩
        exact hsilent htarget
    · intro other
      simp only
      rw [if_neg]
      · exact hexact.own other
      · rintro ⟨rfl, rfl⟩
        rw [hexact.own] at hflight
        cases hflight
    · intro unborn hunborn
      refine ⟨(hexact.unborn unborn hunborn).1, fun sender => ?_⟩
      simp only
      rw [if_neg]
      · exact (hexact.unborn unborn hunborn).2 sender
      · rintro ⟨-, rfl⟩
        have hlt := listens_lt htarget
        have hge : channel.listening.length ≤ unborn := hunborn
        omega

/-- Posting adds to what the node has posted. -/
theorem post_spec {message : Message} {next : Channel Message}
    (hpost : channel.post node message = some next) :
    next.listening = channel.listening ∧ next.arrived = channel.arrived ∧
      next.posted node = channel.posted node ++ [message] ∧
      ∀ sender, sender ≠ node → next.posted sender = channel.posted sender := by
  obtain ⟨-, hnext⟩ := Option.ite_none_right_eq_some.mp hpost
  obtain rfl := Option.some.inj hnext
  exact ⟨rfl, rfl, if_pos rfl, fun sender hne => if_neg hne⟩

end Operations

end Channel

/-- A list that merges one list for every sender, each in its own order. -/
def Merges {Entry : Type*} (parts : ℕ → List Entry) (whole : List Entry) : Prop :=
  ∃ story : List (ℕ × Entry), story.map Prod.snd = whole ∧
    ∀ sender, (story.filter fun entry => entry.1 == sender).map Prod.snd = parts sender

section Merges

variable {Entry : Type*} {parts others : ℕ → List Entry} {whole : List Entry}

theorem merges_nil : Merges (fun _ => ([] : List Entry)) [] := ⟨[], rfl, fun _ => rfl⟩

theorem Merges.congr (hmerges : Merges parts whole)
    (hparts : ∀ sender, parts sender = others sender) : Merges others whole := by
  obtain ⟨story, hwhole, hstory⟩ := hmerges
  exact ⟨story, hwhole, fun sender => (hstory sender).trans (hparts sender)⟩

/-- One more entry, of one of the senders. -/
theorem Merges.append (hmerges : Merges parts whole) (node : ℕ) {entry : Entry}
    (hnode : others node = parts node ++ [entry])
    (hrest : ∀ sender, sender ≠ node → others sender = parts sender) :
    Merges others (whole ++ [entry]) := by
  obtain ⟨story, rfl, hstory⟩ := hmerges
  refine ⟨story ++ [(node, entry)], by simp, fun sender => ?_⟩
  rw [List.filter_append, List.map_append, hstory]
  by_cases hsender : sender = node
  · subst hsender
    simp [hnode]
  · have hne : node ≠ sender := Ne.symm hsender
    simp [hrest sender hsender, hne]

/-- A kind of entry that only one of the senders sends is merged in its order. -/
theorem Merges.filter (hmerges : Merges parts whole) {kind : Entry → Bool} (node : ℕ)
    (hnode : ∀ entry ∈ parts node, kind entry = true)
    (hrest : ∀ sender, sender ≠ node → ∀ entry ∈ parts sender, kind entry = false) :
    whole.filter kind = parts node := by
  obtain ⟨story, rfl, hstory⟩ := hmerges
  have hkind : ∀ entry ∈ story, kind entry.2 = (entry.1 == node) := by
    intro entry hentry
    have hmem : entry.2 ∈ parts entry.1 := by
      rw [← hstory]
      exact List.mem_map_of_mem (List.mem_filter.mpr ⟨hentry, beq_self_eq_true _⟩)
    by_cases hsender : entry.1 = node
    · rw [hnode entry.2 (hsender ▸ hmem), hsender, beq_self_eq_true]
    · rw [hrest entry.1 hsender entry.2 hmem, beq_eq_false_iff_ne.mpr hsender]
  rw [← hstory, List.filter_map]
  exact congrArg (List.map Prod.snd) (List.filter_congr hkind)

end Merges

end ShoppingWeb.Broadcast
