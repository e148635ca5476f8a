import DiffReach.Proofs.Host.Reading

namespace DiffReach

namespace Host

def answeredFrom (network : Network) : List Request → List Request → List Request
  | _, [] => []
  | earlier, r :: rest =>
      if (network earlier r).fails then answeredFrom network (earlier ++ [r]) rest
      else r :: answeredFrom network (earlier ++ [r]) rest

def answered (network : Network) (requests : List Request) : List Request :=
  answeredFrom network [] requests

def Interrupts (failing sound : Network) : Prop :=
  ∀ earlier r, (failing earlier r).fails = true ∨
    (failing earlier r).document = (sound (answered failing earlier) r).document

variable {α : Type} {network failing sound : Network} {earlier : List Request} {r : Request}

theorem answeredFrom_concat (rs : List Request) :
    answeredFrom network earlier (rs ++ [r]) = answeredFrom network earlier rs ++
      if (network (earlier ++ rs) r).fails then [] else [r] := by
  induction rs generalizing earlier with
  | nil => simp [answeredFrom]
  | cons s rs ih =>
    simp only [List.cons_append, answeredFrom, ih, List.append_assoc, List.nil_append]
    split <;> rfl

theorem answered_concat (rs : List Request) :
    answered network (rs ++ [r]) =
      answered network rs ++ if (network rs r).fails then [] else [r] := by
  rw [answered, answeredFrom_concat, List.nil_append, answered]

theorem answered_attempts :
    answered network (earlier ++ attempts network earlier r) =
      answered network earlier ++ if (finalReply network earlier r).fails then [] else [r] := by
  rw [attempts, finalReply]
  split
  · rename_i htransient
    rw [show earlier ++ [r, r] = earlier ++ [r] ++ [r] by simp, answered_concat, answered_concat,
      if_pos (Reply.fails_of_isTransient htransient), List.append_nil]
  · exact answered_concat earlier

theorem Interrupts.document_finalReply (h : Interrupts failing sound)
    (hr : (finalReply failing earlier r).fails = false) :
    (finalReply failing earlier r).document =
      (sound (answered failing earlier) r).document := by
  rw [finalReply] at hr ⊢
  split at hr
  · rename_i htransient
    rw [if_pos htransient]
    have hreply := (h (earlier ++ [r]) r).resolve_left (by simp [hr])
    rwa [answered_concat, if_pos (Reply.fails_of_isTransient htransient), List.append_nil] at hreply
  · rename_i htransient
    rw [if_neg htransient]
    exact (h earlier r).resolve_left (by simp [hr])

theorem finalReply_of_document_eq_ok {v : Value} (h : (network earlier r).document = .ok v) :
    attempts network earlier r = [r] ∧ finalReply network earlier r = network earlier r := by
  have hcalm : ¬ (network earlier r).isTransient = true :=
    fun h' => by simpa [Reply.fails_eq_false_of_ok h] using Reply.fails_of_isTransient h'
  exact ⟨if_neg hcalm, if_neg hcalm⟩

theorem Client.run_read_of_final {f : Value → α} {journal : Journal} {v : Value}
    (h : (finalReply network journal.requests r).document = .ok v) : ∃ later,
      (Client.read r >>= fun v => (pure (f v) : Session α)).run network journal =
        (.ok (f v), later) := by
  obtain ⟨later, hrun, -⟩ := Client.run_read r network journal
  rw [h] at hrun
  exact ⟨later, Session.run_bind_of_ok hrun⟩

def Brings (network : Network) (r : Request) (kind : Value → Prop) : Prop :=
  ∀ earlier, (network earlier r).fails = true ∨
    ∃ v, (network earlier r).document = .ok v ∧ kind v

theorem Interrupts.brings {kind : Value → Prop} (h : Interrupts failing sound)
    (hb : Brings sound r kind) : Brings failing r kind := by
  intro earlier
  rcases h earlier r with hfails | hsame
  · exact Or.inl hfails
  · rw [Reply.fails_eq_true_iff, hsame, ← Reply.fails_eq_true_iff]
    exact hb (answered failing earlier)

theorem exists_finalReply_eq (network : Network) (earlier : List Request) (r : Request) :
    ∃ sent, finalReply network earlier r = network sent r := by
  rw [finalReply]
  split
  · exact ⟨_, rfl⟩
  · exact ⟨_, rfl⟩

theorem Brings.final {kind : Value → Prop} (h : Brings network r kind) (earlier : List Request) :
    (finalReply network earlier r).fails = true ∨
      ∃ v, (finalReply network earlier r).document = .ok v ∧ kind v := by
  obtain ⟨sent, hsent⟩ := exists_finalReply_eq network earlier r
  rw [hsent]
  exact h sent

theorem Brings.finalReply {kind : Value → Prop} (h : Brings network r kind)
    (hr : (finalReply network earlier r).fails = false) :
    ∃ v, (Host.finalReply network earlier r).document = .ok v ∧ kind v := by
  obtain ⟨sent, hsent⟩ := exists_finalReply_eq network earlier r
  rw [hsent] at hr ⊢
  exact (h sent).resolve_left (by simp [hr])

end Host

namespace Session

open Host

variable {α β : Type} {network : Network}

/-- A session that a failed reading ends, and that else ends with a result of a kind, the same on
every network that is interrupted. -/
def Survives (network : Network) (kind : α → Prop) (session : Session α) : Prop :=
  ∀ journal, ∃ rs outcome later, session.run network journal = (outcome, later) ∧
    later.requests = journal.requests ++ transcript network journal.requests rs ∧
    ((AnyFails network journal.requests rs ∧ ∃ failure, outcome = .error (.failure failure)) ∨
      (¬ AnyFails network journal.requests rs ∧ ∃ a, kind a ∧ outcome = .ok a ∧
        ∀ sound journal', Interrupts network sound →
          journal'.requests = answered network journal.requests →
          ∃ later', session.run sound journal' = (.ok a, later') ∧
            later'.requests = answered network later.requests))

theorem survives_pure {kind : α → Prop} {a : α} (h : kind a) :
    (pure a : Session α).Survives network kind := by
  intro journal
  refine ⟨[], .ok a, journal, rfl, by simp [transcript], Or.inr ⟨id, a, h, rfl, ?_⟩⟩
  exact fun sound journal' _ hj => ⟨journal', rfl, hj⟩

theorem survives_settle {result : Except Fault α} {a : α} (h : result = .ok a) :
    (settle result).Survives network (· = a) := by
  subst h
  exact survives_pure rfl

theorem survives_report (event : Event) : (report event).Survives network fun _ => True := by
  intro journal
  refine ⟨[], .ok (), _, rfl, by simp [transcript], Or.inr ⟨id, (), trivial, rfl, ?_⟩⟩
  exact fun sound journal' _ hj => ⟨_, rfl, hj⟩

theorem survives_read {kind : Value → Prop} {r : Request} (h : Brings network r kind) :
    (Client.read r).Survives network kind := by
  intro journal
  obtain ⟨later, hrun, hsent⟩ := Client.run_read r network journal
  refine ⟨[r], _, later, hrun, by rw [hsent, transcript_singleton], ?_⟩
  rw [anyFails_singleton]
  cases hfails : (finalReply network journal.requests r).fails with
  | true => exact Or.inl ⟨rfl, Reply.fails_eq_true_iff.mp hfails⟩
  | false =>
    obtain ⟨v, hv, hkind⟩ := h.finalReply hfails
    refine Or.inr ⟨Bool.false_ne_true, v, hkind, hv, fun sound journal' hi hj => ?_⟩
    -- without the failures the document comes at once
    have hsound : (sound journal'.requests r).document = .ok v := by
      rw [hj, ← hi.document_finalReply hfails, hv]
    obtain ⟨hattempts, hfinal⟩ := finalReply_of_document_eq_ok hsound
    obtain ⟨later', hrun', hsent'⟩ := Client.run_read r sound journal'
    rw [hfinal, hsound] at hrun'
    refine ⟨later', hrun', ?_⟩
    rw [hsent', hattempts, hj, hsent, answered_attempts, hfails]
    rfl

theorem Survives.bind {first : α → Prop} {kind : β → Prop} {session : Session α}
    {next : α → Session β} (h : session.Survives network first)
    (hnext : ∀ a, first a → (next a).Survives network kind) :
    (session >>= next).Survives network kind := by
  intro journal
  obtain ⟨xs, outcome, middle, hrun, hsent, hend⟩ := h journal
  rcases hend with ⟨hfails, failure, rfl⟩ | ⟨hfine, a, ha, rfl, hsame⟩
  · refine ⟨xs, .error (.failure failure), middle, ?_, hsent, Or.inl ⟨hfails, failure, rfl⟩⟩
    rw [run_bind, hrun]
  · obtain ⟨ys, outcome, later, hnextrun, hmore, hend⟩ := hnext a ha middle
    refine ⟨xs ++ ys, outcome, later, ?_, ?_, ?_⟩
    · rw [run_bind_of_ok hrun, hnextrun]
    · rw [hmore, hsent, transcript_append, List.append_assoc]
    · rw [anyFails_append, ← hsent]
      rcases hend with ⟨hfails, hfailure⟩ | ⟨hcalm, b, hb, hout, hlast⟩
      · exact Or.inl ⟨Or.inr hfails, hfailure⟩
      · refine Or.inr ⟨not_or.mpr ⟨hfine, hcalm⟩, b, hb, hout, fun sound journal' hi hj => ?_⟩
        obtain ⟨middle', hrun', hmiddle⟩ := hsame sound journal' hi hj
        obtain ⟨later', hrun'', hlater⟩ := hlast sound middle' hi hmiddle
        refine ⟨later', ?_, hlater⟩
        rw [run_bind_of_ok hrun', hrun'']

theorem survives_read_map {kind : α → Prop} {r : Request} {f : Value → α}
    (h : Brings network r fun v => kind (f v)) :
    (Client.read r >>= fun v => (pure (f v) : Session α)).Survives network kind :=
  (survives_read h).bind fun _ => survives_pure

end Session

end DiffReach
