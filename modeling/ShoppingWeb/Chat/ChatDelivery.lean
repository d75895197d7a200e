import ShoppingWeb.Chat.LiveSupport

/-!
# What the chat pages show

Any number of widgets and admin pages, opened and closed at any time.  What a
page shows, after what it has loaded, merges its own messages with those that
have arrived from the others: no message is lost, doubled or out of turn.
-/

namespace ShoppingWeb.Chat

open ShoppingWeb.Utf16
open ShoppingWeb.Broadcast
open ShoppingWeb.TransitionSystem

/-- A page with what it has shown first. -/
structure ChatPane where
  opened : List ChatLine
  node : ChatNode
  deriving DecidableEq, Repr

structure LiveSupport where
  vault_chat_history : Option (List ChatLine)
  panes : List ChatPane
  channel : Channel ChannelMessage

inductive SupportEvent where
  | opened (kind : NodeKind)
  | closed (pane : ℕ)
  | acted (pane : ℕ) (action : NodeAction)
  | delivered (source target : ℕ)
  deriving DecidableEq, Repr

namespace LiveSupport

def start (vault_chat_history : Option (List ChatLine)) : LiveSupport :=
  ⟨vault_chat_history, [], .new⟩

def setNode (support : LiveSupport) (pane : ℕ) (node : ChatNode) : List ChatPane :=
  support.panes.modify pane fun old => { old with node }

/-- An action at a page, whose message goes out. -/
def act (support : LiveSupport) (pane : ℕ) (node : ChatNode) :
    Option ChannelMessage → Option LiveSupport
  | none => some { support with panes := support.setNode pane node }
  | some message =>
      (support.channel.post pane message).map fun channel =>
        ⟨some node.messages, support.setNode pane node, channel⟩

/-- The handler of a page for a message that has been taken off the channel. -/
def receive (support : LiveSupport) (pane : ℕ) (node : ChatNode) (message : ChannelMessage)
    (channel : Channel ChannelMessage) : LiveSupport :=
  match node.onmessage message with
  | none => { support with channel }
  | some next => ⟨some next.messages, support.setNode pane next, channel⟩

def step (support : LiveSupport) : SupportEvent → Option LiveSupport
  | .opened kind =>
      let node := ChatNode.mount support.vault_chat_history kind
      some { support with
        panes := support.panes ++ [⟨node.messages, node⟩], channel := support.channel.join }
  | .closed pane =>
      if support.channel.Listens pane then
        some { support with channel := support.channel.leave pane }
      else none
  | .acted pane action =>
      if support.channel.Listens pane then
        support.panes[pane]?.bind fun old =>
          (old.node.act action).bind fun after => support.act pane after.1 after.2
      else none
  | .delivered source target =>
      (support.channel.take source target).bind fun taken =>
        support.panes[target]?.map fun old => support.receive target old.node taken.1 taken.2

end LiveSupport

/-- What a page of a kind shows of a sender, itself included. -/
def shownOf (channel : Channel ChannelMessage) (kind : NodeKind) (pane sender : ℕ) :
    List ChatLine :=
  if sender = pane then (channel.posted pane).map lineSent
  else (channel.arrived pane sender).filterMap (lineShown kind)

/-- A page shows what it has loaded and then what it has sent and received. -/
structure ChatPane.Tells (channel : Channel ChannelMessage) (pane : ℕ) (shown : ChatPane) :
    Prop where
  story : ∃ since, shown.node.messages = shown.opened ++ since ∧
    Merges (shownOf channel shown.node.kind pane) since
  kind : ∀ message ∈ channel.posted pane, postedBy message = shown.node.kind

structure LiveSupport.Delivers (initial : Option (List ChatLine)) (support : LiveSupport) :
    Prop where
  exact : support.channel.Exact
  length : support.panes.length = support.channel.listening.length
  tells : ∀ (pane : ℕ) (shown : ChatPane), support.panes[pane]? = some shown →
    shown.Tells support.channel pane
  /-- The stored history is the first one or what some page shows. -/
  stored : support.vault_chat_history = initial ∨
    ∃ (pane : ℕ) (shown : ChatPane), support.panes[pane]? = some shown ∧
      support.vault_chat_history = some shown.node.messages

variable {initial : Option (List ChatLine)} {support next : LiveSupport}

theorem delivers_start (initial : Option (List ChatLine)) :
    (LiveSupport.start initial).Delivers initial where
  exact := Channel.exact_new
  length := rfl
  tells _ _ hpane := by cases hpane
  stored := .inl rfl

/-- A page goes on telling its story when nothing of it changes on the channel. -/
theorem ChatPane.Tells.congr {channel after : Channel ChannelMessage} {pane : ℕ}
    {shown : ChatPane} (htells : shown.Tells channel pane)
    (hposted : after.posted pane = channel.posted pane)
    (harrived : ∀ sender, after.arrived pane sender = channel.arrived pane sender) :
    shown.Tells after pane := by
  obtain ⟨⟨since, hmessages, hmerges⟩, hkind⟩ := htells
  refine ⟨⟨since, hmessages, hmerges.congr fun sender => ?_⟩, by rwa [hposted]⟩
  rw [shownOf, shownOf, hposted, harrived]

theorem getElem?_setNode {pane other : ℕ} {node : ChatNode} {shown : ChatPane}
    (hshown : (support.setNode pane node)[other]? = some shown) :
    ∃ old, support.panes[other]? = some old ∧
      shown = if pane = other then { old with node } else old := by
  rw [LiveSupport.setNode, List.getElem?_modify] at hshown
  obtain ⟨old, hold, rfl⟩ := Option.map_eq_some_iff.mp hshown
  exact ⟨old, hold, rfl⟩

theorem getElem?_setNode_self {pane : ℕ} {node : ChatNode} {old : ChatPane}
    (hold : support.panes[pane]? = some old) :
    (support.setNode pane node)[pane]? = some { old with node } := by
  rw [LiveSupport.setNode, List.getElem?_modify, hold]
  simp

theorem setNode_self {pane : ℕ} {old : ChatPane} (hold : support.panes[pane]? = some old) :
    support.setNode pane old.node = support.panes := by
  apply List.ext_getElem?
  intro other
  rw [LiveSupport.setNode, List.getElem?_modify]
  by_cases heq : pane = other
  · subst heq
    simp [hold]
  · simp [heq]

theorem delivers_opened (hdelivers : support.Delivers initial) (kind : NodeKind)
    (hstep : support.step (.opened kind) = some next) : next.Delivers initial := by
  obtain rfl := Option.some.inj hstep
  have hold : ∀ {pane : ℕ} {shown : ChatPane}, support.panes[pane]? = some shown →
      (support.panes ++
        [⟨(ChatNode.mount support.vault_chat_history kind).messages,
          ChatNode.mount support.vault_chat_history kind⟩])[pane]? = some shown := by
    intro pane shown hshown
    rwa [List.getElem?_append_left (List.getElem?_eq_some_iff.mp hshown).1]
  constructor
  · exact Channel.exact_join hdelivers.exact
  · simp [Channel.join, hdelivers.length]
  · intro pane shown hshown
    rw [List.getElem?_append] at hshown
    split at hshown
    · exact (hdelivers.tells pane shown hshown).congr rfl fun _ => rfl
    · rename_i hnew
      rw [List.getElem?_singleton] at hshown
      split at hshown
      · obtain rfl := Option.some.inj hshown
        -- A new page has sent and received nothing.
        have hborn : support.channel.listening.length ≤ pane := by
          rw [← hdelivers.length]
          exact not_lt.mp hnew
        obtain ⟨hposted, harrived⟩ := hdelivers.exact.unborn pane hborn
        refine ⟨⟨[], (List.append_nil _).symm, merges_nil.congr fun sender => ?_⟩, ?_⟩
        · simp [shownOf, Channel.join, hposted, harrived]
        · intro message hmessage
          simp only [Channel.join, hposted] at hmessage
          cases hmessage
      · cases hshown
  · rcases hdelivers.stored with hfirst | ⟨pane, shown, hshown, hstored⟩
    · exact .inl hfirst
    · exact .inr ⟨pane, shown, hold hshown, hstored⟩

theorem delivers_closed (hdelivers : support.Delivers initial) {pane : ℕ}
    (hstep : support.step (.closed pane) = some next) : next.Delivers initial := by
  obtain ⟨-, hnext⟩ := Option.ite_none_right_eq_some.mp hstep
  obtain rfl := Option.some.inj hnext
  constructor
  · exact Channel.exact_leave hdelivers.exact pane
  · simp [Channel.leave, hdelivers.length]
  · intro other shown hshown
    exact (hdelivers.tells other shown hshown).congr rfl fun _ => rfl
  · exact hdelivers.stored

/-- A page changes what it shows, and what it has sent or received accordingly;
the other pages and what they have of the channel are the same. -/
theorem delivers_setNode (hdelivers : support.Delivers initial) {pane : ℕ} {old : ChatPane}
    (hold : support.panes[pane]? = some old) {node : ChatNode}
    {stored : Option (List ChatLine)} {channel : Channel ChannelMessage}
    (hexact : channel.Exact) (hlistening : channel.listening = support.channel.listening)
    (htells : ChatPane.Tells channel pane { old with node })
    (hothers : ∀ other, other ≠ pane → channel.posted other = support.channel.posted other ∧
      ∀ sender, channel.arrived other sender = support.channel.arrived other sender)
    (hstored : stored = some node.messages ∨
      stored = support.vault_chat_history ∧ node.messages = old.node.messages) :
    LiveSupport.Delivers initial ⟨stored, support.setNode pane node, channel⟩ := by
  constructor
  · exact hexact
  · simp [LiveSupport.setNode, hdelivers.length, hlistening]
  · intro other shown hshown
    obtain ⟨before, hbefore, rfl⟩ := getElem?_setNode hshown
    split
    · rename_i heq
      subst heq
      obtain rfl := Option.some.inj (hold.symm.trans hbefore)
      exact htells
    · rename_i hne
      obtain ⟨hposted, harrived⟩ := hothers other (Ne.symm hne)
      exact (hdelivers.tells other before hbefore).congr hposted harrived
  · rcases hstored with rfl | ⟨rfl, hmessages⟩
    · exact .inr ⟨pane, _, getElem?_setNode_self hold, rfl⟩
    · rcases hdelivers.stored with hfirst | ⟨writer, shown, hshown, hwritten⟩
      · exact .inl hfirst
      · right
        by_cases heq : pane = writer
        · subst heq
          obtain rfl := Option.some.inj (hold.symm.trans hshown)
          exact ⟨pane, _, getElem?_setNode_self hold, by rw [hwritten, ← hmessages]⟩
        · refine ⟨writer, shown, ?_, hwritten⟩
          rw [LiveSupport.setNode, List.getElem?_modify_ne _ _ heq]
          exact hshown

theorem delivers_acted (hdelivers : support.Delivers initial) {pane : ℕ} {action : NodeAction}
    (hstep : support.step (.acted pane action) = some next) : next.Delivers initial := by
  obtain ⟨-, hstep⟩ := Option.ite_none_right_eq_some.mp hstep
  obtain ⟨old, hold, hstep⟩ := Option.bind_eq_some_iff.mp hstep
  obtain ⟨⟨node, posted⟩, hact, hstep⟩ := Option.bind_eq_some_iff.mp hstep
  obtain ⟨⟨since, hmessages, hmerges⟩, hkinds⟩ := hdelivers.tells pane old hold
  obtain ⟨hafter, hkind, hsent⟩ := act_spec hact
  cases posted with
  | none =>
      obtain rfl := Option.some.inj hstep
      have hsame : node.messages = old.node.messages := by simpa using hafter
      apply delivers_setNode hdelivers hold hdelivers.exact rfl _ (fun _ _ => ⟨rfl, fun _ => rfl⟩)
        (.inr ⟨rfl, hsame⟩)
      exact ⟨⟨since, hsame.trans hmessages, hkind ▸ hmerges⟩, hkind ▸ hkinds⟩
  | some message =>
      obtain ⟨channel, hpost, rfl⟩ := Option.map_eq_some_iff.mp hstep
      obtain ⟨hlistening, harrived, hposted, hrest⟩ := Channel.post_spec hpost
      apply delivers_setNode hdelivers hold (Channel.exact_post hdelivers.exact hpost) hlistening _
        (fun other hother => ⟨hrest other hother, fun _ => by rw [harrived]⟩) (.inl rfl)
      constructor
      · refine ⟨since ++ [lineSent message], ?_, ?_⟩
        · have hline : node.messages = old.node.messages ++ [lineSent message] := hafter
          rw [hline, hmessages, List.append_assoc]
        · apply hmerges.append pane
          · simp [shownOf, hposted]
          · intro sender hsender
            simp [shownOf, hsender, harrived, hkind]
      · intro other hother
        rw [hposted, List.mem_append, List.mem_singleton] at hother
        rcases hother with hearlier | rfl
        · exact (hkinds other hearlier).trans hkind.symm
        · exact (hsent other rfl).trans hkind.symm

theorem delivers_delivered (hdelivers : support.Delivers initial) {source target : ℕ}
    (hstep : support.step (.delivered source target) = some next) : next.Delivers initial := by
  obtain ⟨⟨message, channel⟩, htake, hstep⟩ := Option.bind_eq_some_iff.mp hstep
  obtain ⟨old, hold, rfl⟩ := Option.map_eq_some_iff.mp hstep
  obtain ⟨⟨since, hmessages, hmerges⟩, hkinds⟩ := hdelivers.tells target old hold
  obtain ⟨hne, -, hlistening, hposted, harrived, hrest⟩ := Channel.take_spec hdelivers.exact htake
  have hexact := Channel.exact_take hdelivers.exact htake
  have hothers : ∀ other, other ≠ target →
      channel.posted other = support.channel.posted other ∧
        ∀ sender, channel.arrived other sender = support.channel.arrived other sender :=
    fun other hother => ⟨by rw [hposted], fun sender => hrest other sender (.inr hother)⟩
  -- What the target shows of the source grows by the line of the message, if it has one.
  have hsource (kind : NodeKind) : shownOf channel kind target source =
      shownOf support.channel kind target source ++ (lineShown kind message).toList := by
    rw [shownOf, shownOf, if_neg hne, if_neg hne, harrived, List.filterMap_append]
    rfl
  have hsender (kind : NodeKind) (sender : ℕ) (hother : sender ≠ source) :
      shownOf channel kind target sender = shownOf support.channel kind target sender := by
    rw [shownOf, shownOf, hposted, hrest target sender (.inl hother)]
  have hlines := messages_onmessage old.node message
  rw [LiveSupport.receive]
  cases hnode : old.node.onmessage message with
  | none =>
      have hline : lineShown old.node.kind message = none := by
        rw [hnode] at hlines
        simpa using hlines.symm
      have hignored := delivers_setNode hdelivers hold hexact hlistening
        ⟨⟨since, hmessages, hmerges.congr fun sender => ?_⟩, by rwa [hposted]⟩ hothers
        (.inr ⟨rfl, rfl⟩)
      · rwa [setNode_self hold] at hignored
      · by_cases hother : sender = source
        · rw [hother, hsource, hline]
          exact (List.append_nil _).symm
        · exact (hsender _ sender hother).symm
  | some node =>
      have hkind := kind_onmessage hnode
      rw [hnode, Option.map_some] at hlines
      obtain ⟨line, hline, hafter⟩ := Option.map_eq_some_iff.mp hlines.symm
      apply delivers_setNode hdelivers hold hexact hlistening _ hothers (.inl rfl)
      constructor
      · refine ⟨since ++ [line], ?_, ?_⟩
        · rw [← hafter, hmessages, List.append_assoc]
        · apply hmerges.append source
          · rw [hkind, hsource, hline]
            rfl
          · intro sender hother
            rw [hkind, hsender _ sender hother]
      · rw [hposted, hkind]
        exact hkinds

theorem delivers_step (support : LiveSupport) (event : SupportEvent) (next : LiveSupport)
    (hdelivers : support.Delivers initial) (hstep : support.step event = some next) :
    next.Delivers initial := by
  cases event with
  | opened kind => exact delivers_opened hdelivers kind hstep
  | closed pane => exact delivers_closed hdelivers hstep
  | acted pane action => exact delivers_acted hdelivers hstep
  | delivered source target => exact delivers_delivered hdelivers hstep

theorem delivers_run {events : List SupportEvent}
    (hrun : run LiveSupport.step (.start initial) events = some support) :
    support.Delivers initial :=
  run_invariant delivers_step (delivers_start initial) hrun

/-! ## Delivery -/

/-- In every run, what a page shows after what it has loaded merges what it has
sent and what has arrived from each other page, each in order.  What has
arrived, followed by what is on its way, is what the other page has posted
since this one opened.  The stored history is what some page shows. -/
theorem chat_delivered {events : List SupportEvent}
    (hrun : run LiveSupport.step (.start initial) events = some support) :
    (∀ (pane : ℕ) (shown : ChatPane), support.panes[pane]? = some shown →
      (∃ since, shown.node.messages = shown.opened ++ since ∧
        Merges (shownOf support.channel shown.node.kind pane) since) ∧
      (support.channel.Listens pane → ∀ sender, sender ≠ pane →
        support.channel.arrived pane sender ++ support.channel.inFlight sender pane =
          (support.channel.posted sender).drop (support.channel.missed pane sender))) ∧
    (support.vault_chat_history = initial ∨
      ∃ (pane : ℕ) (shown : ChatPane), support.panes[pane]? = some shown ∧
        support.vault_chat_history = some shown.node.messages) := by
  have hdelivers := delivers_run hrun
  refine ⟨fun pane shown hshown => ⟨(hdelivers.tells pane shown hshown).story, ?_⟩,
    hdelivers.stored⟩
  intro hlistens sender hsender
  exact hdelivers.exact.exact pane sender hlistens hsender

theorem isBot_lineSent (message : ChannelMessage) :
    (lineSent message).isBot = (postedBy message == .admin) := by
  cases message <;> rfl

theorem isBot_lineShown {kind : NodeKind} {message : ChannelMessage} {line : ChatLine}
    (hline : lineShown kind message = some line) :
    line.isBot = (kind == .widget) ∧ line.text = (lineSent message).text := by
  cases kind with
  | widget =>
      cases message with
      | admin_reply text targetUser =>
          obtain rfl := Option.some.inj hline
          exact ⟨rfl, rfl⟩
      | client_message text user => cases hline
  | admin =>
      cases message with
      | admin_reply text targetUser => cases hline
      | client_message text user =>
          obtain rfl := Option.some.inj hline
          exact ⟨rfl, rfl⟩

/-- A page of the other kind shows every message, with its text. -/
theorem texts_shown {kind : NodeKind} {messages : List ChannelMessage}
    (hposted : ∀ message ∈ messages, postedBy message ≠ kind) :
    (messages.filterMap (lineShown kind)).map ChatLine.text =
      (messages.map lineSent).map ChatLine.text := by
  induction messages with
  | nil => rfl
  | cons message messages ih =>
      obtain ⟨hfirst, hrest⟩ := List.forall_mem_cons.mp hposted
      obtain ⟨line, hline⟩ : ∃ line, lineShown kind message = some line := by
        cases kind with
        | widget =>
            cases message with
            | admin_reply text targetUser => exact ⟨_, rfl⟩
            | client_message text user => exact absurd rfl hfirst
        | admin =>
            cases message with
            | admin_reply text targetUser => exact absurd rfl hfirst
            | client_message text user => exact ⟨_, rfl⟩
      rw [List.filterMap_cons_some hline, List.map_cons, List.map_cons, List.map_cons, ih hrest,
        (isBot_lineShown hline).2]

/-- A page that only one other page writes to, when nothing is on its way: its
own lines are what it has posted and the others what the other page has. -/
theorem texts_of_pair (hdelivers : support.Delivers initial) {pane other : ℕ} {shown : ChatPane}
    (hshown : support.panes[pane]? = some shown) (hlistens : support.channel.Listens pane)
    (hne : other ≠ pane)
    (hsilent : ∀ sender, sender ≠ pane → sender ≠ other → support.channel.posted sender = [])
    (hmissed : support.channel.missed pane other = 0)
    (hdone : support.channel.inFlight other pane = [])
    (hkinds : ∀ message ∈ support.channel.posted other, postedBy message ≠ shown.node.kind) :
    ∃ since, shown.node.messages = shown.opened ++ since ∧
      (since.filter fun line => line.isBot == (shown.node.kind == .admin)).map ChatLine.text =
        ((support.channel.posted pane).map lineSent).map ChatLine.text ∧
      (since.filter fun line => line.isBot == (shown.node.kind == .widget)).map ChatLine.text =
        ((support.channel.posted other).map lineSent).map ChatLine.text := by
  obtain ⟨⟨since, hmessages, hmerges⟩, hown⟩ := hdelivers.tells pane shown hshown
  have harrived (sender : ℕ) (hsender : sender ≠ pane) :=
    hdelivers.exact.exact pane sender hlistens hsender
  have hother : shownOf support.channel shown.node.kind pane other =
      (support.channel.posted other).filterMap (lineShown shown.node.kind) := by
    have hall := harrived other hne
    rw [hdone, List.append_nil, hmissed, List.drop_zero] at hall
    rw [shownOf, if_neg hne, hall]
  have hself : shownOf support.channel shown.node.kind pane pane =
      (support.channel.posted pane).map lineSent := if_pos rfl
  have hnothing : ∀ sender, sender ≠ pane → sender ≠ other →
      shownOf support.channel shown.node.kind pane sender = [] := by
    intro sender hpane hsender
    have hnone := harrived sender hpane
    rw [hsilent sender hpane hsender, List.drop_nil] at hnone
    rw [shownOf, if_neg hpane, (List.append_eq_nil_iff.mp hnone).1]
    rfl
  have hsent : ∀ line ∈ shownOf support.channel shown.node.kind pane pane,
      line.isBot = (shown.node.kind == .admin) := by
    intro line hline
    rw [hself] at hline
    obtain ⟨message, hmessage, rfl⟩ := List.mem_map.mp hline
    rw [isBot_lineSent, hown message hmessage]
  have hheard : ∀ line ∈ shownOf support.channel shown.node.kind pane other,
      line.isBot = (shown.node.kind == .widget) := by
    intro line hline
    rw [hother] at hline
    obtain ⟨message, -, hmessage⟩ := List.mem_filterMap.mp hline
    exact (isBot_lineShown hmessage).1
  have hdiffer : (shown.node.kind == .admin) ≠ (shown.node.kind == .widget) := by
    cases shown.node.kind <;> decide
  refine ⟨since, hmessages, ?_, ?_⟩
  · rw [hmerges.filter pane, hself]
    · intro line hline
      rw [hsent line hline, beq_self_eq_true]
    · intro sender hsender line hline
      by_cases heq : sender = other
      · subst heq
        rw [hheard line hline]
        exact beq_eq_false_iff_ne.mpr hdiffer.symm
      · rw [hnothing sender hsender heq] at hline
        cases hline
  · rw [hmerges.filter other, hother, texts_shown hkinds]
    · intro line hline
      rw [hheard line hline, beq_self_eq_true]
    · intro sender hsender line hline
      by_cases heq : sender = pane
      · subst heq
        rw [hsent line hline]
        exact beq_eq_false_iff_ne.mpr hdiffer
      · rw [hnothing sender heq hsender] at hline
        cases hline

/-- A customer and an admin who have both opened their pages before the other
wrote, when nobody else writes and nothing is on its way: both pages show the
same messages of either side, each side's in the order of their sending. -/
theorem chat_agrees {events : List SupportEvent}
    (hrun : run LiveSupport.step (.start initial) events = some support) {customer admin : ℕ}
    {widget page : ChatPane} (hwidget : support.panes[customer]? = some widget)
    (hwidgetKind : widget.node.kind = .widget) (hpage : support.panes[admin]? = some page)
    (hpageKind : page.node.kind = .admin)
    (hopen : support.channel.Listens customer ∧ support.channel.Listens admin)
    (hsilent : ∀ sender, sender ≠ customer → sender ≠ admin → support.channel.posted sender = [])
    (hmissed : support.channel.missed customer admin = 0 ∧
      support.channel.missed admin customer = 0)
    (hdone : support.channel.inFlight customer admin = [] ∧
      support.channel.inFlight admin customer = []) :
    ∃ said heard, widget.node.messages = widget.opened ++ said ∧
      page.node.messages = page.opened ++ heard ∧
      ∀ isBot, (said.filter fun line => line.isBot == isBot).map ChatLine.text =
        (heard.filter fun line => line.isBot == isBot).map ChatLine.text := by
  have hdelivers := delivers_run hrun
  have hne : customer ≠ admin := by
    rintro rfl
    obtain rfl := Option.some.inj (hwidget.symm.trans hpage)
    rw [hwidgetKind] at hpageKind
    cases hpageKind
  have hkindsAdmin : ∀ message ∈ support.channel.posted admin,
      postedBy message ≠ widget.node.kind := by
    intro message hmessage
    rw [(hdelivers.tells admin page hpage).kind message hmessage, hpageKind, hwidgetKind]
    decide
  have hkindsCustomer : ∀ message ∈ support.channel.posted customer,
      postedBy message ≠ page.node.kind := by
    intro message hmessage
    rw [(hdelivers.tells customer widget hwidget).kind message hmessage, hpageKind, hwidgetKind]
    decide
  obtain ⟨said, hsaid, hasked, hanswers⟩ := texts_of_pair hdelivers hwidget hopen.1 hne.symm
    hsilent hmissed.1 hdone.2 hkindsAdmin
  obtain ⟨heard, hheard, hreplies, hquestions⟩ := texts_of_pair hdelivers hpage hopen.2 hne
    (fun sender hadmin hcustomer => hsilent sender hcustomer hadmin) hmissed.2 hdone.1
    hkindsCustomer
  refine ⟨said, heard, hsaid, hheard, fun isBot => ?_⟩
  rw [hwidgetKind] at hasked hanswers
  rw [hpageKind] at hreplies hquestions
  cases isBot with
  | false => exact hasked.trans hquestions.symm
  | true => exact hanswers.trans hreplies.symm

/-- A customer writes and the admin answers. -/
def greeting : List SupportEvent :=
  [.opened .widget, .opened .admin, .acted 0 (.type (js "Xin chào")), .acted 0 (.send 7),
    .delivered 0 1, .acted 1 (.type (js "Chào bạn")), .acted 1 (.send 9), .delivered 1 0]

/-- Two pages of the two kinds, and nothing on its way. -/
def LiveSupport.IsQuiet (support : LiveSupport) : Bool :=
  support.panes.map (fun pane => pane.node.kind) == [.widget, .admin] &&
    support.channel.listening == [true, true] &&
    [support.channel.missed 0 1, support.channel.missed 1 0] == [0, 0] &&
    [support.channel.inFlight 0 1, support.channel.inFlight 1 0] == [[], []]

theorem isQuiet_greeting :
    ∃ support, run LiveSupport.step (.start none) greeting = some support ∧ support.IsQuiet :=
  (Option.any_eq_true _ _).mp (by decide)

theorem chat_delivered_greeting :
    ∃ support, run LiveSupport.step (.start none) greeting = some support ∧
      (support.vault_chat_history = none ∨
        ∃ (pane : ℕ) (shown : ChatPane), support.panes[pane]? = some shown ∧
          support.vault_chat_history = some shown.node.messages) := by
  obtain ⟨support, hrun, -⟩ := isQuiet_greeting
  exact ⟨support, hrun, (chat_delivered hrun).2⟩

theorem chat_agrees_greeting :
    ∃ support widget page, run LiveSupport.step (.start none) greeting = some support ∧
      support.panes = [widget, page] ∧
      ∃ said heard, widget.node.messages = widget.opened ++ said ∧
        page.node.messages = page.opened ++ heard ∧
        ∀ isBot, (said.filter fun line => line.isBot == isBot).map ChatLine.text =
          (heard.filter fun line => line.isBot == isBot).map ChatLine.text := by
  obtain ⟨support, hrun, hquiet⟩ := isQuiet_greeting
  simp only [LiveSupport.IsQuiet, Bool.and_eq_true, beq_iff_eq, List.cons.injEq, and_true] at hquiet
  obtain ⟨⟨⟨hkinds, hlistening⟩, hmissed⟩, hdone⟩ := hquiet
  obtain ⟨widget, panes, hpanes, hwidget, hrest⟩ := List.map_eq_cons_iff.mp hkinds
  obtain ⟨page, rest, rfl, hpage, hnone⟩ := List.map_eq_cons_iff.mp hrest
  obtain rfl := List.map_eq_nil_iff.mp hnone
  have hlistens : support.channel.Listens 0 ∧ support.channel.Listens 1 := by
    simp [Channel.Listens, hlistening]
  have hsilent : ∀ sender, sender ≠ 0 → sender ≠ 1 → support.channel.posted sender = [] := by
    intro sender hzero hone
    apply ((delivers_run hrun).exact.unborn sender _).1
    rw [hlistening]
    exact (Nat.two_le_iff sender).mpr ⟨hzero, hone⟩
  exact ⟨support, widget, page, hrun, hpanes,
    chat_agrees hrun (by simp [hpanes]) hwidget (by simp [hpanes]) hpage hlistens hsilent hmissed
      hdone⟩

end ShoppingWeb.Chat
