import ShoppingWeb.Chat.ChatDelivery

/-!
# Who an admin replies to

A rule for what holds of every page of a run, by what the page can do.  An
admin page has one of the users who have written selected as soon as there is
one, so its replies name users who have written.
-/

namespace ShoppingWeb.Chat

open ShoppingWeb.Utf16
open ShoppingWeb.Broadcast
open ShoppingWeb.TransitionSystem

section Rule

variable {holds : ChatNode → List ChannelMessage → Prop} {support : LiveSupport}

/-- What holds of every page and what it has posted. -/
def LiveSupport.Everywhere (holds : ChatNode → List ChannelMessage → Prop)
    (support : LiveSupport) : Prop :=
  ∀ (pane : ℕ) (shown : ChatPane), support.panes[pane]? = some shown →
    holds shown.node (support.channel.posted pane)

/-- A page changes, and what it has posted; the others are the same. -/
theorem everywhere_setNode (heverywhere : support.Everywhere holds) {pane : ℕ} {node : ChatNode}
    {stored : Option (List ChatLine)} {channel : Channel ChannelMessage}
    (hnode : holds node (channel.posted pane))
    (hothers : ∀ other, other ≠ pane → channel.posted other = support.channel.posted other) :
    LiveSupport.Everywhere holds ⟨stored, support.setNode pane node, channel⟩ := by
  intro other shown hshown
  obtain ⟨before, hbefore, rfl⟩ := getElem?_setNode hshown
  split
  · rename_i heq
    subst heq
    exact hnode
  · rename_i hne
    simp only [hothers other (Ne.symm hne)]
    exact heverywhere other before hbefore

theorem everywhere_step {initial : Option (List ChatLine)}
    (hmount : ∀ stored kind, holds (.mount stored kind) [])
    (hact : ∀ node posted action next message, holds node posted →
      node.act action = some (next, message) → holds next (posted ++ message.toList))
    (hreceive : ∀ node posted message next, holds node posted →
      node.onmessage message = some next → holds next posted)
    (support : LiveSupport) (event : SupportEvent) (next : LiveSupport)
    (hboth : support.Delivers initial ∧ support.Everywhere holds)
    (hstep : support.step event = some next) :
    next.Delivers initial ∧ next.Everywhere holds := by
  obtain ⟨hdelivers, heverywhere⟩ := hboth
  refine ⟨delivers_step support event next hdelivers hstep, ?_⟩
  cases event with
  | opened kind =>
      obtain rfl := Option.some.inj hstep
      intro pane shown hshown
      rw [List.getElem?_append] at hshown
      split at hshown
      · exact heverywhere pane shown hshown
      · rename_i hnew
        rw [List.getElem?_singleton] at hshown
        split at hshown
        · obtain rfl := Option.some.inj hshown
          have hborn : support.channel.listening.length ≤ pane := by
            rw [← hdelivers.length]
            exact not_lt.mp hnew
          have hposted : support.channel.join.posted pane = [] :=
            (hdelivers.exact.unborn pane hborn).1
          simp only [hposted]
          exact hmount support.vault_chat_history kind
        · cases hshown
  | closed pane =>
      obtain ⟨-, hnext⟩ := Option.ite_none_right_eq_some.mp hstep
      obtain rfl := Option.some.inj hnext
      exact heverywhere
  | acted pane action =>
      obtain ⟨-, hstep⟩ := Option.ite_none_right_eq_some.mp hstep
      obtain ⟨old, hold, hstep⟩ := Option.bind_eq_some_iff.mp hstep
      obtain ⟨⟨node, posted⟩, hnode, hstep⟩ := Option.bind_eq_some_iff.mp hstep
      have hafter := hact old.node _ action node posted (heverywhere pane old hold) hnode
      cases posted with
      | none =>
          obtain rfl := Option.some.inj hstep
          exact everywhere_setNode heverywhere (by simpa using hafter) fun _ _ => rfl
      | some message =>
          obtain ⟨channel, hpost, rfl⟩ := Option.map_eq_some_iff.mp hstep
          obtain ⟨-, -, hposted, hrest⟩ := Channel.post_spec hpost
          exact everywhere_setNode heverywhere (by rw [hposted]; exact hafter) hrest
  | delivered source target =>
      obtain ⟨⟨message, channel⟩, htake, hstep⟩ := Option.bind_eq_some_iff.mp hstep
      obtain ⟨old, hold, rfl⟩ := Option.map_eq_some_iff.mp hstep
      obtain ⟨-, -, -, hposted, -⟩ := Channel.take_spec hdelivers.exact htake
      rw [LiveSupport.receive]
      cases hnode : old.node.onmessage message with
      | none =>
          intro pane shown hshown
          simp only [hposted]
          exact heverywhere pane shown hshown
      | some node =>
          have hafter := hreceive old.node _ message node (heverywhere target old hold) hnode
          exact everywhere_setNode heverywhere (by rw [hposted]; exact hafter)
            fun _ _ => by rw [hposted]

/-- What a page has when it opens, keeps when it acts and keeps when it
receives holds of all pages of every run. -/
theorem everywhere_run {initial : Option (List ChatLine)} {events : List SupportEvent}
    (hmount : ∀ stored kind, holds (.mount stored kind) [])
    (hact : ∀ node posted action next message, holds node posted →
      node.act action = some (next, message) → holds next (posted ++ message.toList))
    (hreceive : ∀ node posted message next, holds node posted →
      node.onmessage message = some next → holds next posted)
    (hrun : run LiveSupport.step (.start initial) events = some support) :
    support.Everywhere holds := by
  have hnobody : (LiveSupport.start initial).Everywhere holds := by
    intro pane shown hshown
    cases hshown
  have hboth : support.Delivers initial ∧ support.Everywhere holds := by
    apply run_invariant (everywhere_step hmount hact hreceive) ⟨delivers_start initial, hnobody⟩
    exact hrun
  exact hboth.2

end Rule

namespace AdminNode

theorem mem_usersList {admin : AdminNode} {user : JString} :
    user ∈ admin.usersList ↔
      ∃ line ∈ admin.messages, line.isBot = false ∧ userOrAnonymous line.user = user := by
  simp only [usersList, List.mem_eraseDups, List.mem_map, List.mem_filter, Bool.not_eq_true',
    and_assoc]

/-- The selected user is one who has written; there is one if anybody has. -/
def Selects (admin : AdminNode) : Prop :=
  (∃ user ∈ admin.usersList, admin.selectedUser = some user) ∨
    admin.NoneSelected ∧ admin.usersList = []

theorem selects_render {admin : AdminNode}
    (hselected : admin.NoneSelected ∨ ∃ user ∈ admin.usersList, admin.selectedUser = some user) :
    admin.render.Selects := by
  rw [render]
  split
  · rename_i hnone
    split
    · rename_i hnobody
      exact .inr ⟨hnone, hnobody⟩
    · rename_i first rest hlisted
      refine .inl ⟨first, ?_, rfl⟩
      have hmem : first ∈ admin.usersList := by
        rw [hlisted]
        exact List.mem_cons_self
      exact hmem
  · rename_i hsome
    exact .inl (hselected.resolve_left hsome)

/-- More messages list more users. -/
theorem usersList_subset {admin after : AdminNode} {more : List ChatLine}
    (hmessages : after.messages = admin.messages ++ more) : admin.usersList ⊆ after.usersList := by
  intro user huser
  obtain ⟨line, hline, hasked, huser⟩ := mem_usersList.mp huser
  exact mem_usersList.mpr
    ⟨line, hmessages ▸ List.mem_append_left more hline, hasked, huser⟩

theorem Selects.grow {admin after : AdminNode} {more : List ChatLine} (hselects : admin.Selects)
    (hmessages : after.messages = admin.messages ++ more)
    (hselected : after.selectedUser = admin.selectedUser) : after.render.Selects := by
  apply selects_render
  rcases hselects with ⟨user, huser, hchosen⟩ | ⟨hnone, -⟩
  · exact .inr ⟨user, usersList_subset hmessages huser, hselected.trans hchosen⟩
  · left
    rwa [NoneSelected, hselected]

end AdminNode

/-- What an admin page has posted are replies to users it lists. -/
def RepliesToListed : ChatNode → List ChannelMessage → Prop
  | .widget _, _ => True
  | .admin admin, posted =>
      admin.Selects ∧
        ∀ message ∈ posted, ∃ text, ∃ user ∈ admin.usersList, message = .admin_reply text user

theorem repliesToListed_mono {admin : AdminNode} (after : AdminNode) {posted : List ChannelMessage}
    (hreplies : RepliesToListed (.admin admin) posted) (hselects : after.Selects)
    (hsubset : admin.usersList ⊆ after.usersList) : RepliesToListed (.admin after) posted := by
  refine ⟨hselects, fun message hmessage => ?_⟩
  obtain ⟨text, user, huser, rfl⟩ := hreplies.2 message hmessage
  exact ⟨text, user, hsubset huser, rfl⟩

theorem repliesToListed_handleReply {admin : AdminNode} {posted : List ChannelMessage}
    (hreplies : RepliesToListed (.admin admin) posted) :
    RepliesToListed (.admin admin.handleReply.1) (posted ++ admin.handleReply.2.toList) := by
  rw [AdminNode.handleReply]
  split
  · simpa using hreplies
  · rename_i selectedUser hselected
    split
    · simpa using hreplies
    · have hchosen : admin.selectedUser = some selectedUser :=
        (Option.filter_eq_some_iff.mp hselected).1
      have hlisted : selectedUser ∈ admin.usersList := by
        rcases hreplies.1 with ⟨user, huser, hsame⟩ | ⟨hnone, -⟩
        · obtain rfl := Option.some.inj (hchosen.symm.trans hsame)
          exact huser
        · rw [AdminNode.NoneSelected, hselected] at hnone
          cases hnone
      let after : AdminNode :=
        { admin with
          messages := admin.messages ++ [⟨admin.input, true, some selectedUser⟩]
          input := [] }
      have hsubset : admin.usersList ⊆ after.render.usersList :=
        AdminNode.usersList_subset (AdminNode.messages_render after)
      have hselects : after.render.Selects := hreplies.1.grow rfl rfl
      have hafter := repliesToListed_mono _ hreplies hselects hsubset
      refine ⟨hafter.1, fun message hmessage => ?_⟩
      rcases List.mem_append.mp hmessage with hearlier | hnew
      · exact hafter.2 message hearlier
      · exact ⟨admin.input, selectedUser, hsubset hlisted, List.mem_singleton.mp hnew⟩

theorem repliesToListed_mount (stored : Option (List ChatLine)) (kind : NodeKind) :
    RepliesToListed (.mount stored kind) [] := by
  cases kind with
  | widget => trivial
  | admin =>
      refine ⟨AdminNode.selects_render (.inl rfl), fun message hmessage => ?_⟩
      cases hmessage

theorem repliesToListed_act (node : ChatNode) (posted : List ChannelMessage) (action : NodeAction)
    (next : ChatNode) (message : Option ChannelMessage) (hreplies : RepliesToListed node posted)
    (hact : node.act action = some (next, message)) :
    RepliesToListed next (posted ++ message.toList) := by
  cases node with
  | widget widget =>
      cases next with
      | widget _ => trivial
      | admin _ => cases (act_spec hact).2.1
  | admin admin =>
      cases action with
      | type text =>
          obtain ⟨rfl, rfl⟩ := Prod.mk.inj (Option.some.inj hact)
          rw [Option.toList_none, List.append_nil]
          exact hreplies
      | send now =>
          obtain ⟨rfl, rfl⟩ := Prod.mk.inj (Option.some.inj hact)
          exact repliesToListed_handleReply hreplies
      | selectUser user =>
          obtain ⟨hlisted, hnext⟩ := Option.ite_none_right_eq_some.mp hact
          obtain ⟨rfl, rfl⟩ := Prod.mk.inj (Option.some.inj hnext)
          have hposted := repliesToListed_mono { admin with selectedUser := some user } hreplies
            (.inl ⟨user, List.contains_iff_mem.mp hlisted, rfl⟩) (List.Subset.refl _)
          simpa using hposted
      | hideWarning => cases hact

theorem repliesToListed_onmessage (node : ChatNode) (posted : List ChannelMessage)
    (message : ChannelMessage) (next : ChatNode) (hreplies : RepliesToListed node posted)
    (hreceive : node.onmessage message = some next) : RepliesToListed next posted := by
  cases node with
  | widget node =>
      obtain ⟨widget, -, rfl⟩ := Option.map_eq_some_iff.mp hreceive
      trivial
  | admin admin =>
      cases message with
      | admin_reply text targetUser => cases hreceive
      | client_message text user =>
          obtain rfl := Option.some.inj hreceive
          exact repliesToListed_mono _ hreplies (hreplies.1.grow rfl rfl)
            (AdminNode.usersList_subset (AdminNode.messages_render _))

/-- In every run, an admin page has one of the users it lists selected as soon
as it lists one, and all it has posted are replies to users it lists. -/
theorem replies_listed {initial : Option (List ChatLine)} {events : List SupportEvent}
    {support : LiveSupport} (hrun : run LiveSupport.step (.start initial) events = some support)
    {pane : ℕ} {shown : ChatPane} {admin : AdminNode}
    (hshown : support.panes[pane]? = some shown) (hadmin : shown.node = .admin admin) :
    admin.Selects ∧
      ∀ message ∈ support.channel.posted pane,
        ∃ text, ∃ user ∈ admin.usersList, message = .admin_reply text user := by
  have hpage := everywhere_run repliesToListed_mount repliesToListed_act
    repliesToListed_onmessage hrun pane shown hshown
  rwa [hadmin] at hpage

theorem replies_listed_greeting :
    ∃ support shown admin, run LiveSupport.step (.start none) greeting = some support ∧
      support.panes[1]? = some shown ∧ shown.node = .admin admin ∧ admin.Selects := by
  obtain ⟨support, hrun, hquiet⟩ := isQuiet_greeting
  simp only [LiveSupport.IsQuiet, Bool.and_eq_true, beq_iff_eq] at hquiet
  obtain ⟨widget, panes, hpanes, -, hrest⟩ := List.map_eq_cons_iff.mp hquiet.1.1.1
  obtain ⟨page, rest, rfl, hpage, -⟩ := List.map_eq_cons_iff.mp hrest
  obtain ⟨opened, node⟩ := page
  cases node with
  | widget _ => cases hpage
  | admin admin =>
      have hshown : support.panes[1]? = some ⟨opened, .admin admin⟩ := by rw [hpanes]; rfl
      exact ⟨support, _, admin, hrun, hshown, rfl, (replies_listed hrun hshown rfl).1⟩

end ShoppingWeb.Chat
