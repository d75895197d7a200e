import ShoppingWeb.Lib.JavaScriptText
import ShoppingWeb.Lib.SlidingWindow
import ShoppingWeb.Lib.TransitionSystem
import Mathlib.Algebra.Order.Group.Int

/-!
# The chat widget

The widget sends at most `MAX_MESSAGES` messages in a minute.  It drops old
timestamps only when it sends; a run is compared with the list of all messages
that were ever sent.
-/

namespace ShoppingWeb.Chat

open ShoppingWeb.Utf16
open ShoppingWeb.JavaScriptText
open ShoppingWeb.SlidingWindow
open ShoppingWeb.TransitionSystem

structure ChatMessage where
  text : JString
  isBot : Bool
  deriving DecidableEq, Repr

/-- What the page and the admin post on `vault_chat`. -/
inductive BroadcastMessage where
  | admin_reply (text : JString)
  | client_message (text user : JString)
  deriving DecidableEq, Repr

structure ChatWidget where
  messages : List ChatMessage
  input : JString
  spamWarning : Bool
  messageTimestamps : List ℤ
  /-- The `vault_chat_history` of the local storage. -/
  vault_chat_history : Option (List ChatMessage)
  /-- What the widget has posted on the channel. -/
  posted : List BroadcastMessage
  /-- The timeouts that are to hide the warning. -/
  timeouts : ℕ
  deriving DecidableEq, Repr

def MAX_MESSAGES : ℕ := 60

def TIME_WINDOW_MS : ℤ := 60000

namespace ChatWidget

/-- The state after the effect of the first render. -/
def mount (vault_chat_history : Option (List ChatMessage)) : ChatWidget where
  messages := vault_chat_history.getD [⟨js "Xin chào! Tôi có thể giúp gì cho bạn?", true⟩]
  input := []
  spamWarning := false
  messageTimestamps := []
  vault_chat_history := vault_chat_history
  posted := []
  timeouts := 0

def onmessage (widget : ChatWidget) : BroadcastMessage → ChatWidget
  | .admin_reply text =>
      let newMsgs := widget.messages ++ [⟨text, true⟩]
      { widget with messages := newMsgs, vault_chat_history := some newMsgs }
  | .client_message _ _ => widget

def handleSend (now : ℤ) (widget : ChatWidget) : ChatWidget :=
  if trim widget.input = [] then widget
  else
    let recentTimestamps := recent TIME_WINDOW_MS now widget.messageTimestamps
    if recentTimestamps.length ≥ MAX_MESSAGES then
      { widget with spamWarning := true, timeouts := widget.timeouts + 1 }
    else
      let newMsgs := widget.messages ++ [⟨widget.input, false⟩]
      { widget with
        messageTimestamps := recentTimestamps ++ [now]
        messages := newMsgs
        input := []
        vault_chat_history := some newMsgs
        posted := widget.posted ++ [.client_message widget.input (js "Khách hàng")] }

/-- An attempt is accepted when its message goes out. -/
def Accepts (now : ℤ) (widget : ChatWidget) : Prop :=
  (widget.handleSend now).posted ≠ widget.posted

instance (now : ℤ) (widget : ChatWidget) : Decidable (widget.Accepts now) :=
  inferInstanceAs (Decidable (_ ≠ _))

theorem handleSend_blank {now : ℤ} {widget : ChatWidget} (hblank : trim widget.input = []) :
    widget.handleSend now = widget :=
  if_pos hblank

theorem handleSend_full {now : ℤ} {widget : ChatWidget} (htext : trim widget.input ≠ [])
    (hfull : MAX_MESSAGES ≤ (recent TIME_WINDOW_MS now widget.messageTimestamps).length) :
    widget.handleSend now =
      { widget with spamWarning := true, timeouts := widget.timeouts + 1 } := by
  simp [handleSend, htext, hfull]

theorem handleSend_room {now : ℤ} {widget : ChatWidget} (htext : trim widget.input ≠ [])
    (hroom : (recent TIME_WINDOW_MS now widget.messageTimestamps).length < MAX_MESSAGES) :
    widget.handleSend now =
      { widget with
        messageTimestamps := recent TIME_WINDOW_MS now widget.messageTimestamps ++ [now]
        messages := widget.messages ++ [⟨widget.input, false⟩]
        input := []
        vault_chat_history := some (widget.messages ++ [⟨widget.input, false⟩])
        posted := widget.posted ++ [.client_message widget.input (js "Khách hàng")] } := by
  simp [handleSend, htext, hroom]

theorem accepts_iff (now : ℤ) (widget : ChatWidget) :
    widget.Accepts now ↔
      trim widget.input ≠ [] ∧
        (recent TIME_WINDOW_MS now widget.messageTimestamps).length < MAX_MESSAGES := by
  unfold Accepts
  by_cases htext : trim widget.input = []
  · simp [handleSend_blank htext, htext]
  · by_cases hroom : (recent TIME_WINDOW_MS now widget.messageTimestamps).length < MAX_MESSAGES
    · simp [handleSend_room htext hroom, htext, hroom]
    · simp [handleSend_full htext (not_lt.mp hroom), hroom]

theorem handleSend_messageTimestamps (now : ℤ) (widget : ChatWidget) :
    (widget.handleSend now).messageTimestamps =
      if widget.Accepts now then recent TIME_WINDOW_MS now widget.messageTimestamps ++ [now]
      else widget.messageTimestamps := by
  simp only [accepts_iff]
  by_cases htext : trim widget.input = []
  · simp [handleSend_blank htext, htext]
  · by_cases hroom : (recent TIME_WINDOW_MS now widget.messageTimestamps).length < MAX_MESSAGES
    · simp [handleSend_room htext hroom, htext, hroom]
    · simp [handleSend_full htext (not_lt.mp hroom), hroom]

end ChatWidget

inductive ChatEvent where
  | type (text : JString)
  | send (now : ℤ)
  | channel (message : BroadcastMessage)
  | hideWarning
  deriving DecidableEq, Repr

/-- The widget with the times of all accepted attempts and the latest time at
which the clock was read. -/
structure ChatHistory where
  widget : ChatWidget
  accepted : List ℤ
  latest : ℤ
  deriving DecidableEq, Repr

namespace ChatHistory

def start (vault_chat_history : Option (List ChatMessage)) (now : ℤ) : ChatHistory :=
  ⟨.mount vault_chat_history, [], now⟩

/-- The clock does not go back. -/
def step (history : ChatHistory) : ChatEvent → Option ChatHistory
  | .type text => some { history with widget := { history.widget with input := text } }
  | .send now =>
      if history.latest ≤ now then
        some
          { widget := history.widget.handleSend now
            accepted :=
              if history.widget.Accepts now then history.accepted ++ [now] else history.accepted
            latest := now }
      else none
  | .channel message => some { history with widget := history.widget.onmessage message }
  | .hideWarning =>
      if history.widget.timeouts = 0 then none
      else
        some { history with
          widget := { history.widget with
            spamWarning := false, timeouts := history.widget.timeouts - 1 } }

/-- The timestamps of the widget count as the whole history does. -/
def Limited (history : ChatHistory) : Prop :=
  Tracks TIME_WINDOW_MS MAX_MESSAGES history.widget.messageTimestamps history.accepted
    history.latest

theorem limited_start (vault_chat_history : Option (List ChatMessage)) (now : ℤ) :
    (start vault_chat_history now).Limited :=
  tracks_nil TIME_WINDOW_MS MAX_MESSAGES now

theorem limited_step (history : ChatHistory) (event : ChatEvent) (next : ChatHistory)
    (hlimited : history.Limited) (hstep : history.step event = some next) : next.Limited := by
  cases event with
  | type text =>
      obtain rfl := Option.some.inj hstep
      exact hlimited
  | send now =>
      simp only [step, Option.ite_none_right_eq_some, Option.some.injEq] at hstep
      obtain ⟨hlater, rfl⟩ := hstep
      unfold Limited
      simp only [ChatWidget.handleSend_messageTimestamps]
      split
      · rename_i haccepts
        exact hlimited.admit hlater ((ChatWidget.accepts_iff now history.widget).mp haccepts).2
      · exact hlimited.mono hlater
  | channel message =>
      obtain rfl := Option.some.inj hstep
      cases message with
      | admin_reply text => exact hlimited
      | client_message text user => exact hlimited
  | hideWarning =>
      simp only [step, Option.ite_none_left_eq_some, Option.some.injEq] at hstep
      obtain ⟨_, rfl⟩ := hstep
      exact hlimited

end ChatHistory

/-- The limiter is an exact sliding window.  In every run no window of a minute
holds more than 60 accepted attempts, and the next attempt with a text is
turned away exactly if 60 were accepted in the minute before it. -/
theorem rateLimit_run {vault_chat_history : Option (List ChatMessage)} {now₀ : ℤ}
    {events : List ChatEvent} {history : ChatHistory}
    (hrun : run ChatHistory.step (.start vault_chat_history now₀) events = some history) :
    (∀ t, (history.accepted.filter fun ts => t ≤ ts ∧ ts < t + 60000).length ≤ 60) ∧
      ∀ n, history.latest ≤ n → trim history.widget.input ≠ [] →
        (¬ history.widget.Accepts n ↔
          60 ≤ (history.accepted.filter fun ts => n - ts < 60000).length) := by
  have hlimited : history.Limited :=
    run_invariant ChatHistory.limited_step (ChatHistory.limited_start vault_chat_history now₀) hrun
  refine ⟨hlimited.within_le, fun n hlater htext => ?_⟩
  have hrecent := hlimited.recent_eq n hlater
  rw [ChatWidget.accepts_iff, hrecent, not_and, not_lt]
  exact ⟨fun hfull => hfull htext, fun hfull _ => hfull⟩

/-- Sixty messages at time 7, and a text for the next one. -/
def fullWindow : List ChatEvent :=
  (List.replicate 60 [.type (js "Xin chào"), .send 7]).flatten ++ [.type (js "Alo")]

/-- A message at 60006 is turned away, and one a millisecond later goes out. -/
theorem rateLimit_run_fullWindow :
    ∃ history, run ChatHistory.step (.start none 0) fullWindow = some history ∧
      (history.accepted.filter fun ts => 7 ≤ ts ∧ ts < 7 + 60000).length ≤ 60 ∧
      ¬ history.widget.Accepts 60006 ∧ history.widget.Accepts 60007 := by
  have hends : (run ChatHistory.step (.start none 0) fullWindow).any (fun history =>
      decide (history.latest ≤ 60006 ∧ trim history.widget.input ≠ [] ∧
        (history.accepted.filter fun ts => 60006 - ts < 60000).length = 60 ∧
        (history.accepted.filter fun ts => 60007 - ts < 60000).length = 0)) = true := by
    decide +kernel
  obtain ⟨history, hrun, hhistory⟩ := (Option.any_eq_true _ _).mp hends
  obtain ⟨hlatest, htext, hfull, hempty⟩ := of_decide_eq_true hhistory
  obtain ⟨hwindows, hnext⟩ := rateLimit_run hrun
  refine ⟨history, hrun, hwindows 7, (hnext 60006 hlatest htext).mpr hfull.ge, ?_⟩
  by_contra hrejected
  have hsixty := (hnext 60007 (by omega) htext).mp hrejected
  omega

end ShoppingWeb.Chat
