import ControlPlane.Proofs.Provider.Operations

/-!
# How programs play out on a cloud

`Program.Plays` runs a program on a cloud that answers all its requests, and tells the changes among
them: what is sent, how the program ends, with a value or a failure of its own, and which cloud is
left. Look-ups are always answered and leave no trace, so a program that only reads plays out on
every cloud (`ReadOnly.plays`). What plays out on the cloud of a live session is what happens there
(`Plays.run`); no failure is classified, since none comes from the cloud.
-/

namespace ControlPlane

namespace Program

variable {α β : Type} {c c1 c' : Cloud} {ks ks' : List Request} {a : α} {e : Failure}

/-- On the cloud `c` the program sends the changes `ks`, all requests are answered, and it ends with
a result and leaves the cloud `c'`. It reports no more than lines of the log. -/
inductive Plays : Program α → Cloud → List Request → Except Failure α → Cloud → Prop
  | done (a : α) (c : Cloud) : Plays (done a) c [] (.ok a) c
  | fail (e : Failure) (c : Cloud) : Plays (fail e) c [] (.error e) c
  | lookup {r : Request} {next : Except Failure r.Reply → Program α} {c c' : Cloud} {v : r.Reply}
      {ks : List Request} {result : Except Failure α} (reads : r.isMutation = false)
      (answered : c.answer r = (.ok v, c)) (rest : Plays (next (.ok v)) c ks result c') :
      Plays (send r next) c ks result c'
  | change {r : Request} {next : Except Failure r.Reply → Program α} {c c1 c' : Cloud} {v : r.Reply}
      {ks : List Request} {result : Except Failure α} (changes : r.isMutation = true)
      (answered : c.answer r = (.ok v, c1)) (rest : Plays (next (.ok v)) c1 ks result c') :
      Plays (send r next) c (r :: ks) result c'
  | log {level : LogLevel} {line : String} {next : Program α} {c c' : Cloud} {ks : List Request}
      {result : Except Failure α} (rest : Plays next c ks result c') :
      Plays (report (.log level line) next) c ks result c'

/-- A check sends nothing, and ends as its verdict does. -/
theorem plays_ofExcept (r : Except Failure α) (c : Cloud) : (ofExcept r).Plays c [] r c := by
  cases r with
  | ok a => exact .done a c
  | error e => exact .fail e c

/-- After a program that plays out with a value comes the next one. -/
theorem Plays.bind {q : Program α} {f : α → Program β} {result : Except Failure β}
    (h : q.Plays c ks (.ok a) c1) (hf : (f a).Plays c1 ks' result c') :
    (q >>= f).Plays c (ks ++ ks') result c' := by
  generalize hr : (Except.ok a : Except Failure α) = r at h
  induction h with
  | done b c =>
    cases hr
    exact hf
  | fail e c => cases hr
  | lookup reads answered _ ih => exact .lookup reads answered (ih hf hr)
  | change changes answered _ ih => exact .change changes answered (ih hf hr)
  | log _ ih => exact .log (ih hf hr)

/-- What reads only adds no changes to those of the next program. -/
theorem Plays.bind_silent {q : Program α} {f : α → Program β} {result : Except Failure β}
    (h : q.Plays c [] (.ok a) c1) (hf : (f a).Plays c1 ks result c') :
    (q >>= f).Plays c ks result c' :=
  h.bind hf

/-- After a program that plays out with a failure comes nothing. -/
theorem Plays.bind_fails {q : Program α} {f : α → Program β} (h : q.Plays c ks (.error e) c') :
    (q >>= f).Plays c ks (.error e) c' := by
  generalize hr : (Except.error e : Except Failure α) = r at h
  induction h with
  | done b c => cases hr
  | fail e' c =>
    cases hr
    exact .fail e c
  | lookup reads answered _ ih => exact .lookup reads answered (ih hr)
  | change changes answered _ ih => exact .change changes answered (ih hr)
  | log _ ih => exact .log (ih hr)

/-- A program that only reads plays out on every cloud, and sends no changes. -/
theorem ReadOnly.plays {q : Program α} (hq : q.ReadOnly) (c : Cloud) :
    q.Plays c [] (q.exec c).1 c := by
  induction q with
  | done a => exact .done a c
  | fail e => exact .fail e c
  | send r next ih =>
    obtain ⟨hr, _, hnext⟩ := hq
    obtain ⟨v, hv⟩ := Cloud.answer_lookup hr c
    refine .lookup hr hv ?_
    unfold exec
    rw [hv]
    exact ih (.ok v) (hnext _)
  | report e next ih =>
    cases e with
    | log level line => exact .log (ih hq)
    | address | secondaryAddresses | condition => exact hq.elim

/-- A look-up that returns plays out with what it returns. -/
theorem ReadOnly.plays_of_returns {q : Program α} (hq : q.ReadOnly) (h : q.Returns c a c') :
    q.Plays c [] (.ok a) c := by
  have hplays := hq.plays c
  rw [show q.exec c = (.ok a, c') from h] at hplays
  exact hplays

/-- What plays out on the cloud of a live session happens there. -/
theorem Plays.run {q : Program α} {result : Except Failure α} {deadline : Option Seconds}
    {x : Session Cloud} (h : q.Plays x.world.store ks result c') (live : x.Live deadline) :
    ∃ calls log, q.run Cloud.provider deadline x =
        (result, { x with
          world := { x.world with store := c' }
          calls := x.calls ++ calls
          log := x.log ++ log }) ∧
      (calls.map (·.request)).filter (·.isMutation) = ks := by
  generalize hc : x.world.store = c at h
  induction h generalizing x with
  | done a c =>
    subst hc
    exact ⟨[], [], by simp [Program.run], rfl⟩
  | fail e c =>
    subst hc
    exact ⟨[], [], by simp [Program.run], rfl⟩
  | @lookup r next c c' v ks result reads answered rest ih =>
    -- A look-up is called, and is none of the changes.
    subst hc
    let k : Call := ⟨r, remaining deadline x.world.now⟩
    obtain ⟨calls, log, hrun, hks⟩ := ih (x := { x with calls := x.calls ++ [k] }) live rfl
    refine ⟨k :: calls, log, ?_, ?_⟩
    · unfold Program.run
      rw [Session.call_of_live live, answered]
      dsimp only at hrun ⊢
      rw [hrun]
      simp [k]
    · rw [List.map_cons, List.filter_cons_of_neg (by rw [reads]; exact Bool.false_ne_true)]
      exact hks
  | @change r next c c1 c' v ks result changes answered rest ih =>
    -- A change is called, and is the next of them.
    subst hc
    let k : Call := ⟨r, remaining deadline x.world.now⟩
    obtain ⟨calls, log, hrun, hks⟩ := ih
      (x := { x with world := { x.world with store := c1 }, calls := x.calls ++ [k] }) live rfl
    refine ⟨k :: calls, log, ?_, ?_⟩
    · unfold Program.run
      rw [Session.call_of_live live, answered]
      dsimp only at hrun ⊢
      rw [hrun]
      simp [k]
    · rw [List.map_cons, List.filter_cons_of_pos changes]
      exact congrArg (r :: ·) hks
  | @log level line next c c' ks result rest ih =>
    obtain ⟨calls, log, hrun, hks⟩ := ih (x := { x with log := x.log ++ [(level, line)] }) live hc
    refine ⟨calls, (level, line) :: log, ?_, hks⟩
    unfold Program.run
    simp only [Session.note, hrun]
    simp

end Program

/-- A change in a zone of the region is sent, and the cloud makes it. -/
theorem Site.plays_in_zone {s : Site} {zone : String} {r : Request} {v : r.Reply} {c c' : Cloud}
    (hzone : zone ∈ s.zones) (hr : r.isMutation = true) (hanswer : c.answer r = (.ok v, c')) :
    (s.checkZone zone >>= fun _ => Program.request r).Plays c [r] (.ok v) c' := by
  have hcheck : (s.checkZone zone).Plays c [] (.ok ()) c :=
    Program.ReadOnly.plays_of_returns checkZone_orderly (checkZone_returns.2 ⟨hzone, rfl⟩)
  exact hcheck.bind_silent (.change hr hanswer (.done v c'))

end ControlPlane
