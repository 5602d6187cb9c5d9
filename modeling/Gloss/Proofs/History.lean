import Gloss.Service

/-! Runs of the service. Its configuration is what its loader gave last, and every answer is that of
a service that was made just before it with this configuration: a run leaves nothing else behind. -/

namespace Gloss

/-- The request has the configuration loaded anew. -/
def Request.reloads : Request → Bool
  | .reload => true
  | .handle trigger _ _ affected =>
    trigger = .configurationChanged && affected.contains colorSetting
  | _ => false

/-- The configuration that the last successful call of a loader gave, or `c` if there is none. -/
def Config.latest (c : Config) (calls : List (Except Fault Config)) : Config :=
  (calls.filterMap Except.toOption).getLast?.getD c

theorem Config.latest_append (c : Config) (before after : List (Except Fault Config)) :
    c.latest (before ++ after) = (c.latest before).latest after := by
  rw [latest, latest, latest, List.filterMap_append, List.getLast?_append, Option.getD_or]

namespace Service

/-- What the loader says to the request, if it is asked. -/
def call? (s : Service) (w : World) (r : Request) : Option (Except Fault Config) :=
  if r.reloads then s.loader.map fun load => load s.loads w else none

/-- What the loader says in the steps of a run, if it is asked for the requests that reload, and for
no others. -/
def calls (s : Service) (steps : List (World × Request)) : List (Except Fault Config) :=
  match s.loader with
  | none => []
  | some load => ((steps.filter (·.2.reloads)).zipIdx s.loads).map fun x => load x.2 x.1.1

/-- The service after calls of its loader. -/
def after (s : Service) (calls : List (Except Fault Config)) : Service :=
  { s with config := s.config.latest calls, loads := s.loads + calls.length }

/-- A service with the configuration and the note sources of `s`, and without a past. -/
def fresh (s : Service) : Service :=
  { s with loader := none, loads := 0 }

@[simp] theorem after_nil (s : Service) : s.after [] = s := rfl

theorem after_append (s : Service) (a b : List (Except Fault Config)) :
    s.after (a ++ b) = (s.after a).after b := by
  simp only [after, Config.latest_append, List.length_append, Nat.add_assoc]

/-! ### One step -/

section Step

variable (s : Service) (w : World) {r : Request}

theorem call?_of_reloads (h : r.reloads = true) : s.call? w r = s.call? w .reload := by
  rw [call?, call?, h]
  rfl

theorem call?_of_not_reloads (h : r.reloads = false) : s.call? w r = none := by
  rw [call?, h]
  rfl

theorem ask_reload :
    s.ask w .reload = ((s.reload w).1.map Answer.config, (s.reload w).2) := rfl

theorem reload_eq : s.reload w =
    ((s.call? w .reload).getD (.ok s.config), s.after (s.call? w .reload).toList) := by
  obtain ⟨config, provider, loader, loads⟩ := s
  cases loader with
  | none => rfl
  | some load =>
    cases hload : load loads w with
    | ok c => simp [reload, call?, Request.reloads, hload, after, Config.latest, Except.toOption]
    | error e => simp [reload, call?, Request.reloads, hload, after, Config.latest, Except.toOption]

section Handle

variable (t : Option Text) (language : Option Text) {affected : List Text}

theorem reloads_handle {trigger : Trigger} :
    (Request.handle trigger t language affected).reloads = true ↔
      trigger = .configurationChanged ∧ colorSetting ∈ affected := by
  simp [Request.reloads]

theorem ask_handle (trigger : Trigger) (affected : List Text) :
    s.ask w (.handle trigger t language affected) =
      ((s.handle w trigger t language affected).1.map Answer.highlight,
        (s.handle w trigger t language affected).2) := rfl

theorem handle_of_failed (h : colorSetting ∈ affected) {e : Fault}
    (hcall : s.call? w .reload = some (.error e)) :
    s.handle w .configurationChanged t language affected = (.error e, s.after [.error e]) := by
  rw [handle, if_pos rfl, if_pos h, reload_eq, hcall]
  rfl

theorem handle_of_loaded (h : colorSetting ∈ affected)
    (hcall : ∀ e, s.call? w .reload ≠ some (.error e)) :
    s.handle w .configurationChanged t language affected =
      ((s.after (s.call? w .reload).toList).highlightShown w t language,
        s.after (s.call? w .reload).toList) := by
  rw [handle, if_pos rfl, if_pos h, reload_eq]
  cases hc : s.call? w .reload with
  | none => rfl
  | some outcome =>
    cases outcome with
    | ok c => rfl
    | error e => exact absurd hc (hcall e)

theorem handle_of_unaffected (h : colorSetting ∉ affected) :
    s.handle w .configurationChanged t language affected = (.ok none, s) := by
  rw [handle, if_pos rfl, if_neg h]

theorem handle_of_other {trigger : Trigger} (h : trigger ≠ .configurationChanged) :
    s.handle w trigger t language affected = (s.highlightShown w t language, s) := by
  rw [handle, if_neg h]

end Handle

/-- A request that does not reload is answered from the configuration and the note sources. -/
theorem ask_of_not_reloads (h : r.reloads = false) : s.ask w r = ((s.fresh.ask w r).1, s) := by
  cases r with
  | rebuild | appliesTo | highlight | hover | definition | config => rfl
  | reload => cases h
  | handle trigger t language affected =>
    rw [ask_handle, ask_handle]
    by_cases htrigger : trigger = .configurationChanged
    · subst htrigger
      have haffected : colorSetting ∉ affected := by
        intro hmem
        rw [(reloads_handle t language).mpr ⟨rfl, hmem⟩] at h
        cases h
      rw [handle_of_unaffected s w t language haffected,
        handle_of_unaffected s.fresh w t language haffected]
    · rw [handle_of_other s w t language htrigger, handle_of_other s.fresh w t language htrigger]
      rfl

/-- A request that reloads is answered by the failure of the loader, if it fails. -/
theorem ask_of_failed {e : Fault} (h : r.reloads = true) (hcall : s.call? w r = some (.error e)) :
    s.ask w r = (.error e, s.after [.error e]) := by
  rw [call?_of_reloads s w h] at hcall
  cases r with
  | rebuild | appliesTo | highlight | hover | definition | config => cases h
  | reload =>
    rw [ask_reload, reload_eq, hcall]
    rfl
  | handle trigger t language affected =>
    obtain ⟨rfl, haffected⟩ := (reloads_handle t language).mp h
    rw [ask_handle, handle_of_failed s w t language haffected hcall]
    rfl

/-- A request that reloads is answered from the new configuration, if the loader does not fail. -/
theorem ask_of_loaded (h : r.reloads = true) (hcall : ∀ e, s.call? w r ≠ some (.error e)) :
    s.ask w r = (((s.after (s.call? w r).toList).fresh.ask w r).1,
      s.after (s.call? w r).toList) := by
  rw [call?_of_reloads s w h] at hcall ⊢
  cases r with
  | rebuild | appliesTo | highlight | hover | definition | config => cases h
  | reload =>
    rw [ask_reload, reload_eq]
    cases hc : s.call? w .reload with
    | none => rfl
    | some outcome =>
      cases outcome with
      | ok c => rfl
      | error e => exact absurd hc (hcall e)
  | handle trigger t language affected =>
    obtain ⟨rfl, haffected⟩ := (reloads_handle t language).mp h
    have hfresh : ∀ e, (s.after (s.call? w .reload).toList).fresh.call? w .reload ≠
        some (.error e) := fun _ he => nomatch he
    rw [ask_handle, ask_handle, handle_of_loaded s w t language haffected hcall,
      handle_of_loaded _ w t language haffected hfresh]
    rfl

/-- A step changes the service by the call of the loader that it makes, and by nothing else. -/
theorem ask_snd (r : Request) : (s.ask w r).2 = s.after (s.call? w r).toList := by
  cases hr : r.reloads with
  | false =>
    rw [ask_of_not_reloads s w hr, call?_of_not_reloads s w hr, Option.toList_none, after_nil]
  | true =>
    by_cases hfailed : ∃ e, s.call? w r = some (.error e)
    · obtain ⟨e, he⟩ := hfailed
      rw [ask_of_failed s w hr he, he]
      rfl
    · rw [ask_of_loaded s w hr fun e he => hfailed ⟨e, he⟩]

end Step

/-- What can be said of a step for the request `r` in the world `w`, from the service `now` to the
service `next`: the loader is called once for a request that reloads, and not for another; if it
fails, its failure is the answer and the configuration stays; and otherwise the answer is that of a
service without a past, which has the configuration after the step. -/
structure StepTo (now : Service) (w : World) (r : Request) (next : Service)
    (answer : Except Fault Answer) : Prop where
  loads : next.loads = now.loads + if now.loader.isSome && r.reloads then 1 else 0
  failed : ∀ e, now.call? w r = some (.error e) → next.config = now.config ∧ answer = .error e
  answered : (∀ e, now.call? w r ≠ some (.error e)) → answer = (next.fresh.ask w r).1

theorem length_call? (s : Service) (w : World) (r : Request) :
    (s.call? w r).toList.length = if s.loader.isSome && r.reloads then 1 else 0 := by
  rw [call?]
  cases s.loader with
  | none => cases r.reloads <;> rfl
  | some load => cases r.reloads <;> rfl

theorem stepTo_ask (s : Service) (w : World) (r : Request) :
    StepTo s w r (s.ask w r).2 (s.ask w r).1 := by
  refine ⟨?_, fun e he => ?_, fun hcall => ?_⟩
  · rw [ask_snd, after, length_call?]
  · rw [ask_snd, he]
    cases hr : r.reloads with
    | false =>
      rw [call?_of_not_reloads s w hr] at he
      cases he
    | true => exact ⟨rfl, by rw [ask_of_failed s w hr he]⟩
  · cases hr : r.reloads with
    | false => rw [ask_of_not_reloads s w hr]
    | true => rw [ask_of_loaded s w hr hcall]

/-! ### Runs -/

section Run

variable (s : Service)

theorem run_cons (w : World) (r : Request) (rest : List (World × Request)) :
    s.run ((w, r) :: rest) =
      ((s.ask w r).1 :: ((s.ask w r).2.run rest).1, ((s.ask w r).2.run rest).2) := rfl

theorem run_append (a b : List (World × Request)) :
    s.run (a ++ b) = ((s.run a).1 ++ ((s.run a).2.run b).1, ((s.run a).2.run b).2) := by
  induction a generalizing s with
  | nil => rfl
  | cons x a ih =>
    obtain ⟨w, r⟩ := x
    rw [List.cons_append, run_cons, ih, run_cons]
    rfl

theorem length_run (steps : List (World × Request)) : (s.run steps).1.length = steps.length := by
  induction steps generalizing s with
  | nil => rfl
  | cons x rest ih =>
    obtain ⟨w, r⟩ := x
    rw [run_cons, List.length_cons, ih, List.length_cons]

theorem calls_cons (w : World) (r : Request) (rest : List (World × Request)) :
    s.calls ((w, r) :: rest) =
      (s.call? w r).toList ++ (s.after (s.call? w r).toList).calls rest := by
  obtain ⟨config, provider, loader, loads⟩ := s
  cases loader with
  | none => cases hr : r.reloads <;> simp [calls, call?, after, hr]
  | some load => cases hr : r.reloads <;> simp [calls, call?, after, hr]

/-- A run changes the service by the calls of the loader in its steps, and by nothing else. -/
theorem run_snd (steps : List (World × Request)) : (s.run steps).2 = s.after (s.calls steps) := by
  induction steps generalizing s with
  | nil =>
    cases hloader : s.loader with
    | none => rw [calls, hloader]; rfl
    | some load => rw [calls, hloader]; rfl
  | cons x rest ih =>
    obtain ⟨w, r⟩ := x
    rw [run_cons, calls_cons, after_append, ← ask_snd]
    exact ih _

theorem length_calls (steps : List (World × Request)) :
    (s.calls steps).length = if s.loader.isSome then steps.countP (·.2.reloads) else 0 := by
  rw [calls]
  cases s.loader with
  | none => rfl
  | some load => simp [List.countP_eq_length_filter]

end Run

/-- After a run the configuration is what the last call of the loader that did not fail gave, and
the loader was called once for each request that reloads. Each step of a run has an answer, and it
is that of a service which was made with the configuration of that moment and knows of no step
before. -/
theorem run_keeps_configuration_only (s : Service) :
    (∀ steps, (s.run steps).1.length = steps.length ∧
      (s.run steps).2 = { s with
        config := s.config.latest (s.calls steps)
        loads := s.loads + if s.loader.isSome then steps.countP (·.2.reloads) else 0 }) ∧
    ∀ before w r rest, ∃ answer,
      (s.run (before ++ (w, r) :: rest)).1[before.length]? = some answer ∧
        StepTo (s.run before).2 w r (s.run (before ++ [(w, r)])).2 answer := by
  refine ⟨fun steps => ⟨length_run s steps, ?_⟩, fun before w r rest => ?_⟩
  · rw [run_snd, after, length_calls]
  · refine ⟨((s.run before).2.ask w r).1, ?_, ?_⟩
    · rw [run_append, run_cons, List.getElem?_append_right (Nat.le_of_eq (length_run s before))]
      rw [length_run, Nat.sub_self]
      rfl
    · rw [run_append s before [(w, r)], run_cons]
      exact stepTo_ask (s.run before).2 w r

end Service

end Gloss
