import MarkupEditor.Proofs.Session.Reached
import Mathlib.Data.List.Nodup

/-!
# How deep reactions are nested

An observer reacts to so many notifications and no more.  So a session knows how many
reactions are still to come, a command how many it can add, and one that is taken up leaves
fewer for those nested in it.  Beyond that number the bound of a run makes no difference.
-/

namespace MarkupEditor

mutual

/-- A command that is read anew prepares as many reactions. -/
theorem Command.reactions_reread (turn : Nat) :
    ∀ command : Command, (command.reread turn).reactions = command.reactions := by
  intro command
  cases command with
  | editing body => exact commandReactions_reread turn body
  | observe name reaction times =>
      change times * (1 + commandReactions (rereadCommands turn reaction)) = _
      rw [commandReactions_reread turn reaction]
      rfl
  | _ => rfl

theorem commandReactions_reread (turn : Nat) :
    ∀ commands : List Command,
      commandReactions (rereadCommands turn commands) = commandReactions commands
  | [] => rfl
  | command :: rest => by
      rw [rereadCommands, commandReactions, commandReactions, command.reactions_reread turn,
        commandReactions_reread turn rest]

end

namespace Session

variable {react react' : React} {session after : Session}

/-- Each name stands for one reaction. -/
def Distinct (session : Session) : Prop := (session.reactions.map Prod.fst).Nodup

theorem distinct_new (buffer : Buffer) : (new buffer).Distinct := List.nodup_nil

theorem remainingReactions_append (left right : List (String × Reaction)) :
    remainingReactions (left ++ right) = remainingReactions left + remainingReactions right := by
  induction left with
  | nil => exact (Nat.zero_add _).symm
  | cons known left ih =>
      rw [List.cons_append, remainingReactions, remainingReactions, ih, Nat.add_assoc]

/-! ### Taking up a reaction -/

/-- Where names differ, a name stands for nothing but its own reaction. -/
theorem map_used_eq {name : String} {before used : Reaction} {left right : List (String × Reaction)}
    (h : ((left ++ (name, before) :: right).map Prod.fst).Nodup) :
    (left ++ (name, before) :: right).map
        (fun known => if known.1 = name then (name, used) else known) =
      left ++ (name, used) :: right := by
  rw [List.map_append, List.map_cons] at h
  have hother {others : List (String × Reaction)} (hnames : name ∉ others.map Prod.fst) :
      others.map (fun known => if known.1 = name then (name, used) else known) = others := by
    refine (List.map_congr_left ?_).trans (List.map_id others)
    intro known hknown
    exact if_neg fun hname => hnames (List.mem_map.2 ⟨known, hknown, hname⟩)
  have hright : name ∉ right.map Prod.fst := (List.nodup_cons.1 h.of_append_right).1
  have hleft : name ∉ left.map Prod.fst := by
    intro hname
    exact List.disjoint_of_nodup_append h hname List.mem_cons_self
  rw [List.map_append, List.map_cons, hother hleft, hother hright, if_pos rfl]

/-- A reaction that is taken up stands for itself and for what it can prepare; the names
stay the same. -/
theorem reactionsLeft_takeReaction (h : session.Distinct) {observer : Observer}
    {body : List Command} {used : Session}
    (htaken : session.takeReaction observer = some (body, used)) :
    used.Distinct ∧ used.reactionsLeft + (1 + commandReactions body) = session.reactionsLeft := by
  unfold takeReaction at htaken
  split at htaken
  · cases htaken
  · next name =>
    split at htaken
    · next known remaining hlookup =>
      obtain ⟨left, right, hreactions, -⟩ := List.lookup_eq_some_iff.1 hlookup
      rw [Distinct, hreactions] at h
      cases htaken
      rw [Distinct, reactionsLeft, reactionsLeft, hreactions, map_used_eq h]
      constructor
      · rw [List.map_append, List.map_cons] at h ⊢
        exact h
      · simp only [remainingReactions_append, remainingReactions, commandReactions_reread,
          Nat.succ_mul]
        omega
    · cases htaken

/-! ### What is left of reactions -/

/-- What has happened prepared no more than so many reactions. -/
structure Spends (before after : Session) (prepared : Nat) : Prop where
  distinct : after.Distinct
  le : after.reactionsLeft ≤ before.reactionsLeft + prepared

/-- Whatever it is run for, it prepares no more reactions than its commands do. -/
def React.Frugal (react : React) : Prop :=
  ∀ body {session : Session}, session.Distinct →
    session.Spends (react body session).1 (commandReactions body)

theorem Spends.of_reactions (h : session.Distinct) (hsame : after.reactions = session.reactions)
    (prepared : Nat) : session.Spends after prepared := by
  constructor
  · rw [Distinct, hsame]
    exact h
  · rw [reactionsLeft, reactionsLeft, hsame]
    exact Nat.le_add_right ..

theorem Spends.mono {prepared prepared' : Nat} (h : session.Spends after prepared)
    (hle : prepared ≤ prepared') : session.Spends after prepared' :=
  ⟨h.distinct, Nat.le_trans h.le (Nat.add_le_add_left hle _)⟩

theorem Spends.trans {before between after : Session} {prepared prepared' : Nat}
    (h : before.Spends between prepared) (h' : between.Spends after prepared') :
    before.Spends after (prepared + prepared') where
  distinct := h'.distinct
  le := by
    have hle := h.le
    have hle' := h'.le
    omega

/-- A notification prepares nothing: what it takes up has been prepared before. -/
theorem spends_deliver (hreact : react.Frugal) (h : session.Distinct) (event : Event)
    (observers : List Observer) : session.Spends (deliver react event observers session).1 0 := by
  have hstart : session.Spends session 0 := .of_reactions h rfl 0
  apply deliver_keeps (fun reached => session.Spends reached 0)
    (fun hreached => ⟨hreached.distinct, hreached.le⟩) _ observers hstart
  intro reached observer body used hreached htaken
  obtain ⟨hused, hleft⟩ := reactionsLeft_takeReaction hreached.distinct htaken
  have hspends := hreact body hused
  have hle := hspends.le
  have hbefore := hreached.le
  exact ⟨hspends.distinct, by omega⟩

theorem spends_takeOver (hreact : react.Frugal) (h : session.Distinct) (edited : Edited) :
    session.Spends (session.takeOver react edited).1 0 := by
  obtain ⟨buffer, notice⟩ := edited
  cases notice with
  | none => exact .of_reactions h (by rfl) 0
  | some notice =>
      have hcompleted : session.Spends (session.completed buffer notice) 0 :=
        .of_reactions h (by rfl) 0
      exact hcompleted.trans (spends_deliver hreact hcompleted.distinct _ _)

theorem spends_observe (h : session.Distinct) (name : String) (reaction : List Command)
    (times : Nat) :
    session.Spends (session.observe name reaction times)
      (times * (1 + commandReactions reaction)) := by
  cases hknown : session.reactions.lookup name with
  | some known =>
      apply Spends.of_reactions h
      simp only [observe, hknown]
      rfl
  | none =>
      have hreactions : (session.observe name reaction times).reactions =
          session.reactions ++ [(name, ⟨reaction, times⟩)] := by
        simp only [observe, hknown]
        rfl
      have hnew : name ∉ session.reactions.map Prod.fst := by
        intro hname
        obtain ⟨known, hmem, hsame⟩ := List.mem_map.1 hname
        exact bne_iff_ne.1 (List.lookup_eq_none_iff.1 hknown known hmem) hsame.symm
      constructor
      · rw [Distinct, hreactions, List.map_append]
        exact h.append (List.nodup_singleton name) (List.disjoint_singleton.2 hnew)
      · rw [reactionsLeft, reactionsLeft, hreactions, remainingReactions_append]
        exact Nat.le_refl _

theorem Effect.spends {command : Command} (heffect : Effect react session command after)
    (hreact : react.Frugal) (h : session.Distinct) : session.Spends after command.reactions := by
  cases heffect with
  | edited =>
      rw [settle_fst]
      exact (spends_takeOver hreact h _).mono (Nat.zero_le _)
  | observed => exact spends_observe h _ _ _
  | _ => exact .of_reactions h (by rfl) _

theorem spends_step (hreact : react.Frugal) (h : session.Distinct) {command : Command}
    (hblock : ∀ body, command ≠ .editing body) :
    session.Spends (execute react command session).session command.reactions :=
  (effect_execute hblock).spends hreact h

mutual

/-- The induction is on the nesting of blocks. -/
theorem spends_execute (hreact : react.Frugal) :
    ∀ (command : Command) {session : Session}, session.Distinct →
      session.Spends (execute react command session).session command.reactions := by
  intro command session h
  cases command with
  | editing body =>
      rw [session_execute_editing]
      have hopened : session.Spends (execute react .beginEditing session).session 0 :=
        spends_step hreact h nofun
      have hran := hopened.trans (spends_executeAll hreact body hopened.distinct)
      have hend : ∀ body, Command.endEditing ≠ .editing body := nofun
      have hclosed := hran.trans (spends_step hreact hran.distinct hend)
      exact hclosed.mono (Nat.le_of_eq (Nat.zero_add _))
  | _ => exact spends_step hreact h nofun

theorem spends_executeAll (hreact : react.Frugal) :
    ∀ (commands : List Command) {session : Session}, session.Distinct →
      session.Spends (executeAll react commands session).1 (commandReactions commands)
  | [], _, h => .of_reactions h (by rfl) 0
  | command :: rest, session, h => by
      have hfirst := spends_execute hreact command h
      rw [executeAll]
      split
      · exact hfirst.mono (Nat.le_add_right ..)
      · exact hfirst.trans (spends_executeAll hreact rest hfirst.distinct)

end

theorem frugal_reactWithin (bound : Nat) : React.Frugal (reactWithin bound) := by
  induction bound with
  | zero => exact fun body session h => .of_reactions h (by rfl) _
  | succ bound ih => exact fun body session h => spends_executeAll ih body h

/-! ### Bounds that make no difference -/

/-- Two ways to run commands do the same as long as fewer than so many reactions are left. -/
def React.AgreeBelow (bound : Nat) (react react' : React) : Prop :=
  ∀ body {session : Session}, session.Distinct →
    session.reactionsLeft + commandReactions body < bound → react body session = react' body session

variable {bound : Nat}

/-- A reaction that is taken up leaves fewer than there were. -/
theorem deliver_congr (hreact : react.Frugal) (hagree : React.AgreeBelow bound react react')
    (h : session.Distinct) (hle : session.reactionsLeft ≤ bound) (event : Event)
    (observers : List Observer) :
    deliver react event observers session = deliver react' event observers session := by
  induction observers generalizing session with
  | nil => rfl
  | cons observer rest ih =>
      have htold : (session.note (.notified observer event)).Distinct := h
      rw [deliver, deliver]
      cases htaken : (session.note (.notified observer event)).takeReaction observer with
      | none => exact ih htold hle
      | some taken =>
          obtain ⟨body, used⟩ := taken
          obtain ⟨hused, hleft⟩ := reactionsLeft_takeReaction htold htaken
          have hfewer : used.reactionsLeft + (1 + commandReactions body) ≤ bound := by
            rw [hleft]
            exact hle
          have hspends := hreact body hused
          dsimp only
          rw [← hagree body hused (by omega)]
          generalize react body used = reacted at hspends
          obtain ⟨reacted, failed⟩ := reacted
          cases failed with
          | none =>
              have hreached : reacted.reactionsLeft ≤ _ := hspends.le
              exact ih hspends.distinct (by omega)
          | some failure => rfl

theorem takeOver_congr (hreact : react.Frugal) (hagree : React.AgreeBelow bound react react')
    (h : session.Distinct) (hle : session.reactionsLeft ≤ bound) (edited : Edited) :
    session.takeOver react edited = session.takeOver react' edited := by
  obtain ⟨buffer, notice⟩ := edited
  cases notice with
  | none => rfl
  | some notice =>
      have hcompleted : (session.completed buffer notice).Distinct := h
      exact deliver_congr hreact hagree hcompleted hle notice.event notice.observers

theorem settle_congr (hreact : react.Frugal) (hagree : React.AgreeBelow bound react react')
    (h : session.Distinct) (hle : session.reactionsLeft ≤ bound) (edit : Attempt Edited Edited) :
    session.settle react edit = session.settle react' edit := by
  cases edit with
  | ok edited => exact takeOver_congr hreact hagree h hle edited
  | error stopped => rw [settle, settle, takeOver_congr hreact hagree h hle]

mutual

/-- The induction is on the nesting of blocks. -/
theorem execute_congr (hreact : react.Frugal) (hagree : React.AgreeBelow bound react react') :
    ∀ (command : Command) {session : Session}, session.Distinct →
      session.reactionsLeft + command.reactions ≤ bound →
        execute react command session = execute react' command session := by
  intro command session h hle
  have hsettle (edit : Attempt Edited Edited) :
      session.settle react edit = session.settle react' edit :=
    settle_congr hreact hagree h (Nat.le_of_add_right_le hle) edit
  cases command with
  | editing body =>
      have hopened : Distinct { session with buffer := session.buffer.beginEditing } := h
      have hran := spends_executeAll hreact body hopened
      have hbody := executeAll_congr hreact hagree body hopened hle
      simp only [execute, ← hbody]
      generalize executeAll react body _ = result at hran
      obtain ⟨ran, replies, refused⟩ := result
      have hclosed : ran.settle react ran.buffer.endEditing =
          ran.settle react' ran.buffer.endEditing :=
        settle_congr hreact hagree hran.distinct (Nat.le_trans hran.le hle) _
      simp only [hclosed]
  | replace | setAttributes | delete | insert | append | setText | endEditing | recolorize =>
      simp only [execute, Outcome.ofEdit, hsettle]
  | _ => rfl

theorem executeAll_congr (hreact : react.Frugal) (hagree : React.AgreeBelow bound react react') :
    ∀ (commands : List Command) {session : Session}, session.Distinct →
      session.reactionsLeft + commandReactions commands ≤ bound →
        executeAll react commands session = executeAll react' commands session
  | [], _, _, _ => rfl
  | command :: rest, session, h, hle => by
      have hfirst := spends_execute hreact command h
      have hreached := hfirst.le
      rw [commandReactions] at hle
      have hsame := execute_congr hreact hagree command h (by omega)
      rw [executeAll, executeAll, ← hsame]
      dsimp only
      rw [executeAll_congr hreact hagree rest hfirst.distinct (by omega)]

end

/-- The induction is on the reactions that are left. -/
theorem agreeBelow_reactWithin {bound' least : Nat} (h : least ≤ bound) (h' : least ≤ bound') :
    React.AgreeBelow least (reactWithin bound) (reactWithin bound') := by
  induction least generalizing bound bound' with
  | zero => exact fun body session _ hlt => absurd hlt (Nat.not_lt_zero _)
  | succ least ih =>
      intro body session hdistinct hlt
      obtain ⟨bound, rfl⟩ := Nat.exists_eq_add_of_le' (Nat.le_of_add_left_le h)
      obtain ⟨bound', rfl⟩ := Nat.exists_eq_add_of_le' (Nat.le_of_add_left_le h')
      have hagree := ih (Nat.le_of_succ_le_succ h) (Nat.le_of_succ_le_succ h')
      have hall := executeAll_congr (frugal_reactWithin bound) hagree body hdistinct
        (Nat.le_of_lt_succ hlt)
      simp only [reactWithin, hall]

/-- A run goes as deep as reactions can be nested: with any greater bound a command does the
same. -/
theorem execute_reactWithin_eq_run (h : session.Distinct) {command : Command}
    (hbound : session.reactionsLeft + command.reactions ≤ bound) :
    execute (reactWithin bound) command session = session.run command :=
  (execute_congr (frugal_reactWithin _) (agreeBelow_reactWithin (Nat.le_refl _) hbound) command h
    (Nat.le_refl _)).symm

theorem Reached.distinct {start : Session} (hreached : Reached start session)
    (h : start.Distinct) : session.Distinct := by
  induction hreached with
  | start => exact h
  | called _ bound command ih =>
      exact (spends_execute (frugal_reactWithin bound) command ih).distinct
  | @notified session told used _ bound edit _ buffer notice _ earlier later observer _ htold body
      htaken ih =>
      have hcompleted : (session.completed buffer notice).Distinct := ih
      have hdelivered := spends_deliver (frugal_reactWithin bound) hcompleted notice.event earlier
      rw [htold] at hdelivered
      have hnoted : (told.note (.notified observer notice.event)).Distinct := hdelivered.distinct
      exact (reactionsLeft_takeReaction hnoted htaken).1

/-- In every state that a call can find, the bound is one that no nesting of reactions
exceeds. -/
theorem Reached.execute_reactWithin_eq_run {buffer : Buffer} (h : Reached (.new buffer) session)
    {command : Command} (hbound : session.reactionsLeft + command.reactions ≤ bound) :
    execute (reactWithin bound) command session = session.run command :=
  Session.execute_reactWithin_eq_run (h.distinct (distinct_new buffer)) hbound

end Session

end MarkupEditor
