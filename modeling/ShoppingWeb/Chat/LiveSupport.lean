import ShoppingWeb.Chat.ChatWidget
import ShoppingWeb.Lib.Broadcast

/-!
# Live support

The chat widgets of the shop and the chat page of the admin.  They talk over
the channel `vault_chat`, and each of them stores all it shows as the history
that the next one to open will load.
-/

namespace ShoppingWeb.Chat

open ShoppingWeb.Utf16
open ShoppingWeb.JavaScriptText
open ShoppingWeb.SlidingWindow
open ShoppingWeb.Broadcast

/-- A message of the history; the widget gives its own no user. -/
structure ChatLine where
  text : JString
  isBot : Bool
  user : Option JString
  deriving DecidableEq, Repr

/-- What is posted on `vault_chat`. -/
inductive ChannelMessage where
  | admin_reply (text targetUser : JString)
  | client_message (text user : JString)
  deriving DecidableEq, Repr

/-- `user || "Khách ẩn danh"` -/
def userOrAnonymous (user : Option JString) : JString :=
  (user.filter (· ≠ [])).getD (js "Khách ẩn danh")

structure WidgetNode where
  messages : List ChatLine
  input : JString
  spamWarning : Bool
  messageTimestamps : List ℤ
  timeouts : ℕ
  deriving DecidableEq, Repr

namespace WidgetNode

def mount (vault_chat_history : Option (List ChatLine)) : WidgetNode where
  messages :=
    vault_chat_history.getD [⟨js "Xin chào! Tôi có thể giúp gì cho bạn?", true, none⟩]
  input := []
  spamWarning := false
  messageTimestamps := []
  timeouts := 0

/-- `none` when the message is not for the widget; otherwise it stores what it shows. -/
def onmessage (widget : WidgetNode) : ChannelMessage → Option WidgetNode
  | .admin_reply text _ => some { widget with messages := widget.messages ++ [⟨text, true, none⟩] }
  | .client_message _ _ => none

/-- The widget after the attempt, and what it posts; it stores what it shows if
it posts. -/
def handleSend (now : ℤ) (widget : WidgetNode) : WidgetNode × Option ChannelMessage :=
  if trim widget.input = [] then (widget, none)
  else
    let recentTimestamps := recent TIME_WINDOW_MS now widget.messageTimestamps
    if recentTimestamps.length ≥ MAX_MESSAGES then
      ({ widget with spamWarning := true, timeouts := widget.timeouts + 1 }, none)
    else
      ({ widget with
          messageTimestamps := recentTimestamps ++ [now]
          messages := widget.messages ++ [⟨widget.input, false, none⟩]
          input := [] },
        some (.client_message widget.input (js "Khách hàng")))

end WidgetNode

def ChatLine.forget (line : ChatLine) : ChatMessage := ⟨line.text, line.isBot⟩

def ChannelMessage.forget : ChannelMessage → BroadcastMessage
  | .admin_reply text _ => .admin_reply text
  | .client_message text user => .client_message text user

/-- The widget that reads and writes no users. -/
def WidgetNode.forget (widget : WidgetNode) (stored : Option (List ChatLine))
    (posted : List ChannelMessage) : ChatWidget where
  messages := widget.messages.map ChatLine.forget
  input := widget.input
  spamWarning := widget.spamWarning
  messageTimestamps := widget.messageTimestamps
  vault_chat_history := stored.map (List.map ChatLine.forget)
  posted := posted.map ChannelMessage.forget
  timeouts := widget.timeouts

theorem forget_handleSend (now : ℤ) (widget : WidgetNode) (stored : Option (List ChatLine))
    (posted : List ChannelMessage) :
    (widget.forget stored posted).handleSend now =
      (widget.handleSend now).1.forget
        ((widget.handleSend now).2.elim stored fun _ => some (widget.handleSend now).1.messages)
        (posted ++ (widget.handleSend now).2.toList) := by
  by_cases hblank : trim widget.input = []
  · simp [WidgetNode.handleSend, ChatWidget.handleSend, WidgetNode.forget, hblank]
  · by_cases hfull :
        MAX_MESSAGES ≤ (recent TIME_WINDOW_MS now widget.messageTimestamps).length
    · simp [WidgetNode.handleSend, ChatWidget.handleSend, WidgetNode.forget, hblank, hfull]
    · simp [WidgetNode.handleSend, ChatWidget.handleSend, WidgetNode.forget, hblank, hfull,
        ChatLine.forget, ChannelMessage.forget]

theorem forget_onmessage (widget : WidgetNode) (stored : Option (List ChatLine))
    (posted : List ChannelMessage) (message : ChannelMessage) :
    (widget.forget stored posted).onmessage message.forget =
      match widget.onmessage message with
      | none => widget.forget stored posted
      | some next => next.forget (some next.messages) posted := by
  cases message with
  | admin_reply text targetUser =>
      simp [WidgetNode.onmessage, ChannelMessage.forget, ChatWidget.onmessage, WidgetNode.forget,
        ChatLine.forget]
  | client_message text user => rfl

structure AdminNode where
  messages : List ChatLine
  input : JString
  selectedUser : Option JString
  deriving DecidableEq, Repr

namespace AdminNode

/-- The users who have written, each once. -/
def usersList (admin : AdminNode) : List JString :=
  ((admin.messages.filter fun m => !m.isBot).map fun m => userOrAnonymous m.user).eraseDups

/-- `!selectedUser` -/
def NoneSelected (admin : AdminNode) : Prop := admin.selectedUser.filter (· ≠ []) = none

instance (admin : AdminNode) : Decidable admin.NoneSelected :=
  inferInstanceAs (Decidable (_ = _))

/-- Rendering selects the first user when none is selected. -/
def render (admin : AdminNode) : AdminNode :=
  if admin.NoneSelected then
    match admin.usersList with
    | [] => admin
    | first :: _ => { admin with selectedUser := some first }
  else admin

def mount (vault_chat_history : Option (List ChatLine)) : AdminNode :=
  render ⟨vault_chat_history.getD [], [], none⟩

def onmessage (admin : AdminNode) : ChannelMessage → Option AdminNode
  | .admin_reply _ _ => none
  | .client_message text user =>
      some (render { admin with
        messages := admin.messages ++ [⟨text, false, some (userOrAnonymous (some user))⟩] })

def handleReply (admin : AdminNode) : AdminNode × Option ChannelMessage :=
  match admin.selectedUser.filter (· ≠ []) with
  | none => (admin, none)
  | some selectedUser =>
      if trim admin.input = [] then (admin, none)
      else
        (render { admin with
            messages := admin.messages ++ [⟨admin.input, true, some selectedUser⟩]
            input := [] },
          some (.admin_reply admin.input selectedUser))

theorem messages_render (admin : AdminNode) : admin.render.messages = admin.messages := by
  rw [render]
  split
  · split
    · rfl
    · rfl
  · rfl

end AdminNode

inductive ChatNode where
  | widget (widget : WidgetNode)
  | admin (admin : AdminNode)
  deriving DecidableEq, Repr

inductive NodeKind where
  | widget
  | admin
  deriving DecidableEq, Repr

namespace ChatNode

def kind : ChatNode → NodeKind
  | .widget _ => .widget
  | .admin _ => .admin

def mount (vault_chat_history : Option (List ChatLine)) : NodeKind → ChatNode
  | .widget => .widget (.mount vault_chat_history)
  | .admin => .admin (.mount vault_chat_history)

def messages : ChatNode → List ChatLine
  | .widget node => node.messages
  | .admin node => node.messages

def onmessage : ChatNode → ChannelMessage → Option ChatNode
  | .widget node, message => (node.onmessage message).map .widget
  | .admin node, message => (node.onmessage message).map .admin

end ChatNode

/-- What a user does at a node. -/
inductive NodeAction where
  | type (text : JString)
  /-- The send button, pressed at a time that only the widget reads. -/
  | send (now : ℤ)
  | selectUser (user : JString)
  | hideWarning
  deriving DecidableEq, Repr

/-- A node after an action, and what it posts. -/
def ChatNode.act : ChatNode → NodeAction → Option (ChatNode × Option ChannelMessage)
  | .widget node, .type text => some (.widget { node with input := text }, none)
  | .admin node, .type text => some (.admin { node with input := text }, none)
  | .widget node, .send now =>
      let after := node.handleSend now
      some (.widget after.1, after.2)
  | .admin node, .send _ =>
      let after := node.handleReply
      some (.admin after.1, after.2)
  | .admin node, .selectUser user =>
      if node.usersList.contains user then
        some (.admin { node with selectedUser := some user }, none)
      else none
  | .widget node, .hideWarning =>
      if node.timeouts = 0 then none
      else
        some (.widget { node with spamWarning := false, timeouts := node.timeouts - 1 }, none)
  | _, _ => none

/-- The line that the sender of a message adds to what it shows. -/
def lineSent : ChannelMessage → ChatLine
  | .client_message text _ => ⟨text, false, none⟩
  | .admin_reply text targetUser => ⟨text, true, some targetUser⟩

/-- The line that a receiver adds, if the message is for its kind. -/
def lineShown : NodeKind → ChannelMessage → Option ChatLine
  | .widget, .admin_reply text _ => some ⟨text, true, none⟩
  | .admin, .client_message text user => some ⟨text, false, some (userOrAnonymous (some user))⟩
  | _, _ => none

def postedBy : ChannelMessage → NodeKind
  | .client_message _ _ => .widget
  | .admin_reply _ _ => .admin

theorem messages_onmessage (node : ChatNode) (message : ChannelMessage) :
    (node.onmessage message).map ChatNode.messages =
      (lineShown node.kind message).map fun line => node.messages ++ [line] := by
  cases node with
  | widget widget => cases message <;> rfl
  | admin admin =>
      cases message with
      | admin_reply text targetUser => rfl
      | client_message text user => exact congrArg some (AdminNode.messages_render _)

theorem kind_onmessage {node next : ChatNode} {message : ChannelMessage}
    (hnext : node.onmessage message = some next) : next.kind = node.kind := by
  cases node with
  | widget widget =>
      obtain ⟨_, -, rfl⟩ := Option.map_eq_some_iff.mp hnext
      rfl
  | admin admin =>
      obtain ⟨_, -, rfl⟩ := Option.map_eq_some_iff.mp hnext
      rfl

theorem handleSend_spec (now : ℤ) (widget : WidgetNode) :
    (widget.handleSend now).1.messages =
        widget.messages ++ ((widget.handleSend now).2.map lineSent).toList ∧
      ∀ message, (widget.handleSend now).2 = some message → postedBy message = .widget := by
  rw [WidgetNode.handleSend]
  split
  · simp
  · simp only
    split
    · simp
    · refine ⟨rfl, fun message hmessage => ?_⟩
      rw [← Option.some.inj hmessage]
      rfl

theorem handleReply_spec (admin : AdminNode) :
    admin.handleReply.1.messages =
        admin.messages ++ (admin.handleReply.2.map lineSent).toList ∧
      ∀ message, admin.handleReply.2 = some message → postedBy message = .admin := by
  rw [AdminNode.handleReply]
  split
  · simp
  · split
    · simp
    · refine ⟨AdminNode.messages_render _, fun message hmessage => ?_⟩
      rw [← Option.some.inj hmessage]
      rfl

/-- An action shows what it posts, and posts what a node of its kind posts. -/
theorem act_spec {node next : ChatNode} {action : NodeAction} {posted : Option ChannelMessage}
    (hact : node.act action = some (next, posted)) :
    next.messages = node.messages ++ (posted.map lineSent).toList ∧ next.kind = node.kind ∧
      ∀ message, posted = some message → postedBy message = node.kind := by
  fun_cases ChatNode.act node action with
  | case1 widget text =>
      obtain ⟨rfl, rfl⟩ := Prod.mk.inj (Option.some.inj hact)
      exact ⟨(List.append_nil _).symm, rfl, fun _ hmessage => by cases hmessage⟩
  | case2 admin text =>
      obtain ⟨rfl, rfl⟩ := Prod.mk.inj (Option.some.inj hact)
      exact ⟨(List.append_nil _).symm, rfl, fun _ hmessage => by cases hmessage⟩
  | case3 widget now =>
      obtain ⟨rfl, rfl⟩ := Prod.mk.inj (Option.some.inj hact)
      exact ⟨(handleSend_spec now widget).1, rfl, (handleSend_spec now widget).2⟩
  | case4 admin now =>
      obtain ⟨rfl, rfl⟩ := Prod.mk.inj (Option.some.inj hact)
      exact ⟨(handleReply_spec admin).1, rfl, (handleReply_spec admin).2⟩
  | case5 admin user hlisted =>
      rw [ChatNode.act, if_pos hlisted] at hact
      obtain ⟨rfl, rfl⟩ := Prod.mk.inj (Option.some.inj hact)
      exact ⟨(List.append_nil _).symm, rfl, fun _ hmessage => by cases hmessage⟩
  | case6 admin user hlisted =>
      rw [ChatNode.act, if_neg hlisted] at hact
      cases hact
  | case7 widget hnone =>
      rw [ChatNode.act, if_pos hnone] at hact
      cases hact
  | case8 widget hsome =>
      rw [ChatNode.act, if_neg hsome] at hact
      obtain ⟨rfl, rfl⟩ := Prod.mk.inj (Option.some.inj hact)
      exact ⟨(List.append_nil _).symm, rfl, fun _ hmessage => by cases hmessage⟩
  | case9 =>
      rw [ChatNode.act] at hact
      · cases hact
      all_goals assumption

end ShoppingWeb.Chat
