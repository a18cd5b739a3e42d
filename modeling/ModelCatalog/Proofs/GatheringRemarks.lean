import ModelCatalog.Proofs.Gathering

/-! What gathering codes logs: the remarks on the uses that it has passed, in their order. It passes
all of them, unless a fatal policy objects to one; that one is reported and not logged. -/
namespace ModelCatalog

def objection? (kind : CodeKind) (policy : CodePolicy) (earlier : List String) (use : CodeUse) :
    Option Fault :=
  if use.code = "" then
    if policy.allowEmpty then none else some (.emptyCode use.model kind)
  else if isProper use.code && earlier.contains use.code && !policy.allowShared then
    some (.sharedCode use.model kind use.code)
  else none

def placeholderEvent (kind : CodeKind) (use : CodeUse) : LogEvent :=
  ⟨.warn, .collect, use.model ++ " contains zero " ++ kind.key ++ ", skipping"⟩

/-- Of the two things that are objected to, only an empty code is said to be skipped. -/
def objectionEvent (use : CodeUse) (fault : Fault) : LogEvent :=
  ⟨.error, .collect, fault.message ++ if use.code = "" then ", skipping" else ""⟩

/-- What is logged about a use that does not end the work. A fatal policy logs no objections. -/
def remark? (kind : CodeKind) (policy : CodePolicy) (earlier : List String) (use : CodeUse) :
    Option LogEvent :=
  if isPlaceholder use.code then some (placeholderEvent kind use)
  else if policy.fatal then none
  else (objection? kind policy earlier use).map (objectionEvent use)

/-- The remarks on uses, the codes in `earlier` coming before them. -/
def remarks (kind : CodeKind) (policy : CodePolicy) : List String → List CodeUse → Log
  | _, [] => []
  | earlier, use :: rest =>
    (remark? kind policy earlier use).toList ++ remarks kind policy (earlier ++ [use.code]) rest

section Remarks

variable {kind : CodeKind} {policy : CodePolicy} {earlier : List String} {use : CodeUse}
  {fault : Fault} {event : LogEvent}

theorem objection?_eq_some_iff :
    objection? kind policy earlier use = some fault ↔ Objection kind policy earlier use fault := by
  obtain ⟨model, code⟩ := use
  constructor
  · intro found
    unfold objection? at found
    split at found
    · next empty =>
      obtain rfl : code = "" := empty
      split at found
      · cases found
      · next refused =>
        cases found
        exact .empty (by simpa using refused)
    · split at found
      · next again =>
        cases found
        simp only [Bool.and_eq_true, Bool.not_eq_true', List.contains_iff_mem] at again
        exact .shared again.2 again.1.1 again.1.2
      · cases found
  · rintro (refused | ⟨refused, proper, again⟩)
    · simp [objection?, refused]
    · have filled : code ≠ "" := by
        rintro rfl
        simp at proper
      simp [objection?, filled, refused, proper, again]

theorem Objection.not_isPlaceholder (objection : Objection kind policy earlier use fault) :
    isPlaceholder use.code = false := by
  cases objection with
  | empty refused => rfl
  | shared refused proper again => exact (isProper_iff.mp proper).2

theorem remark?_eq_some_iff :
    remark? kind policy earlier use = some event ↔
      isPlaceholder use.code = true ∧ event = placeholderEvent kind use ∨
      policy.fatal = false ∧
        ∃ fault, Objection kind policy earlier use fault ∧ event = objectionEvent use fault := by
  unfold remark?
  cases placeholder : isPlaceholder use.code with
  | true =>
    have clear (fault : Fault) : ¬ Objection kind policy earlier use fault := by
      intro objection
      simp [objection.not_isPlaceholder] at placeholder
    simp only [if_true, true_and, clear, false_and, exists_false, and_false, or_false,
      Option.some.injEq]
    exact eq_comm
  | false =>
    cases policy.fatal with
    | true => simp
    | false => simp [objection?_eq_some_iff, eq_comm]

end Remarks

section Run

variable {kind : CodeKind} {policy : CodePolicy} {seen earlier : List String} {use : CodeUse}
  {rest : List CodeUse} {fault : Fault}

theorem log_gatherFrom_stop (same : SameProper seen earlier) (fatal : policy.fatal = true)
    (objection : Objection kind policy earlier use fault) :
    (gatherFrom kind policy seen (use :: rest)).log = [] := by
  cases objection with
  | empty refused => simp [gatherFrom, refused, CodePolicy.object, fatal]
  | @shared model code refused proper again =>
    obtain ⟨filled, genuine⟩ := isProper_iff.mp proper
    have member : code ∈ seen := (same code proper).mpr again
    simp [gatherFrom, filled, genuine, member, refused, CodePolicy.object, fatal]

theorem log_gatherFrom_skip (same : SameProper seen earlier)
    (passed : policy.fatal = true → ∀ fault, ¬ Objection kind policy earlier use fault)
    (known : isProper use.code = false ∨ use.code ∈ seen) :
    (gatherFrom kind policy seen (use :: rest)).log =
      (remark? kind policy earlier use).toList ++ (gatherFrom kind policy seen rest).log := by
  -- where the policy would object it is not fatal, so that the objection is logged
  obtain ⟨model, code⟩ := use
  by_cases empty : code = ""
  · subst empty
    cases allowed : policy.allowEmpty with
    | true => simp [gatherFrom, remark?, objection?, isPlaceholder, allowed]
    | false =>
      have mild : policy.fatal = false :=
        Bool.eq_false_iff.mpr fun fatal => passed fatal _ (.empty allowed)
      simp [gatherFrom, remark?, objection?, objectionEvent, isPlaceholder, allowed,
        CodePolicy.object, mild]
  have filled : code.isEmpty = false := by simpa using empty
  cases placeholder : isPlaceholder code with
  | true => simp [gatherFrom, remark?, placeholderEvent, filled, placeholder]
  | false =>
    have proper : isProper code = true := isProper_iff.mpr ⟨filled, placeholder⟩
    have member : code ∈ seen := known.resolve_left (by simp [proper])
    have again : code ∈ earlier := (same code proper).mp member
    cases allowed : policy.allowShared with
    | true => simp [gatherFrom, remark?, objection?, filled, empty, placeholder, member, allowed]
    | false =>
      have mild : policy.fatal = false :=
        Bool.eq_false_iff.mpr fun fatal => passed fatal _ (.shared allowed proper again)
      simp [gatherFrom, remark?, objection?, objectionEvent, filled, empty, placeholder, member,
        again, proper, allowed, CodePolicy.object, mild]

theorem log_gatherFrom_take (same : SameProper seen earlier) (proper : isProper use.code = true)
    (fresh : use.code ∉ seen) :
    (gatherFrom kind policy seen (use :: rest)).log =
      (remark? kind policy earlier use).toList ++
        (gatherFrom kind policy (use.code :: seen) rest).log := by
  obtain ⟨filled, genuine⟩ := isProper_iff.mp proper
  have unheard : use.code ∉ earlier := mt (same use.code proper).mpr fresh
  have named : use.code ≠ "" := by simpa using filled
  simp [gatherFrom, remark?, objection?, filled, named, genuine, fresh, unheard]

theorem log_gatherFrom_cons (same : SameProper seen earlier)
    (passed : policy.fatal = true → ∀ fault, ¬ Objection kind policy earlier use fault) :
    ∃ seen', SameProper seen' (earlier ++ [use.code]) ∧ ∀ rest,
      (gatherFrom kind policy seen (use :: rest)).log =
        (remark? kind policy earlier use).toList ++ (gatherFrom kind policy seen' rest).log := by
  by_cases known : isProper use.code = false ∨ use.code ∈ seen
  · refine ⟨seen, same.skip known, ?_⟩
    intro rest
    exact log_gatherFrom_skip same passed known
  · obtain ⟨proper, fresh⟩ := not_or.mp known
    refine ⟨use.code :: seen, same.take use.code, ?_⟩
    intro rest
    exact log_gatherFrom_take same (by simpa using proper) fresh

/-- What is passed is logged with its remarks, whatever comes behind it. -/
theorem log_gatherFrom_append (before : List CodeUse) (same : SameProper seen earlier)
    (passed : policy.fatal = true → Unopposed kind policy earlier before) :
    ∃ seen', SameProper seen' (earlier ++ before.map (·.code)) ∧ ∀ rest,
      (gatherFrom kind policy seen (before ++ rest)).log =
        remarks kind policy earlier before ++ (gatherFrom kind policy seen' rest).log := by
  induction before generalizing seen earlier with
  | nil => exact ⟨seen, by simpa using same, fun rest => rfl⟩
  | cons use before ih =>
    have first (fatal : policy.fatal = true) := (unopposed_cons.mp (passed fatal)).1
    have others (fatal : policy.fatal = true) := (unopposed_cons.mp (passed fatal)).2
    obtain ⟨after, sameAfter, step⟩ := log_gatherFrom_cons same first
    obtain ⟨last, sameLast, run⟩ := ih sameAfter others
    refine ⟨last, by simpa using sameLast, ?_⟩
    intro rest
    rw [List.cons_append, step, run, remarks, List.append_assoc]

end Run

section Gather

variable {db : Database} {kind : CodeKind} {policy : CodePolicy}

theorem log_gather_of_passed
    (passed : policy.fatal = true → Unopposed kind policy [] (db.codeUses kind)) :
    (db.gather kind policy).log = remarks kind policy [] (db.codeUses kind) := by
  obtain ⟨seen, _, run⟩ := log_gatherFrom_append (db.codeUses kind) (fun _ _ => Iff.rfl) passed
  have whole := run []
  rw [List.append_nil] at whole
  exact whole.trans (List.append_nil _)

theorem log_gather_of_objection {before after : List CodeUse} {use : CodeUse} {fault : Fault}
    (fatal : policy.fatal = true) (split : db.codeUses kind = before ++ use :: after)
    (unopposed : Unopposed kind policy [] before)
    (objection : Objection kind policy (before.map (·.code)) use fault) :
    (db.gather kind policy).log = remarks kind policy [] before := by
  obtain ⟨seen, same, run⟩ := log_gatherFrom_append before (fun _ _ => Iff.rfl) fun _ => unopposed
  rw [Database.gather, split, run, log_gatherFrom_stop same fatal objection, List.append_nil]

variable {codes : List String} {fault : Fault} {log : Log}

theorem gather_fails_iff :
    (∃ fault, (db.gather kind policy).result = .error fault) ↔
      policy.fatal = true ∧ ∃ before use after fault,
        db.codeUses kind = before ++ use :: after ∧
        Objection kind policy (before.map (·.code)) use fault := by
  constructor
  · rintro ⟨fault, failed⟩
    obtain ⟨fatal, before, use, after, split, _, objection⟩ := gather_eq_error_iff.mp failed
    exact ⟨fatal, before, use, after, fault, split, objection⟩
  · rintro ⟨fatal, before, use, after, fault, split, objection⟩
    rcases unopposed_or_firstObjection [] (db.codeUses kind) with unopposed | ⟨first, found⟩
    · exact absurd objection (unopposed before use after split fault)
    · exact ⟨first, gather_eq_error_iff.mpr ⟨fatal, found⟩⟩

theorem gather_eq_failed_iff :
    db.gather kind policy = ⟨log, .error fault⟩ ↔
      policy.fatal = true ∧ ∃ before use after,
        db.codeUses kind = before ++ use :: after ∧
        Unopposed kind policy [] before ∧
        Objection kind policy (before.map (·.code)) use fault ∧
        log = remarks kind policy [] before := by
  constructor
  · intro gathered
    have failed : (db.gather kind policy).result = .error fault := congrArg Logged.result gathered
    obtain ⟨fatal, before, use, after, split, unopposed, objection⟩ := gather_eq_error_iff.mp failed
    have logged := log_gather_of_objection fatal split unopposed objection
    rw [gathered] at logged
    exact ⟨fatal, before, use, after, split, unopposed, objection, logged⟩
  · rintro ⟨fatal, before, use, after, split, unopposed, objection, rfl⟩
    rw [← log_gather_of_objection fatal split unopposed objection,
      ← gather_eq_error_iff.mpr ⟨fatal, before, use, after, split, unopposed, objection⟩]

theorem gather_eq_passed_iff :
    db.gather kind policy = ⟨log, .ok codes⟩ ↔
      (policy.fatal = true → Unopposed kind policy [] (db.codeUses kind)) ∧
      codes = db.distinctCodes kind ∧
      log = remarks kind policy [] (db.codeUses kind) := by
  constructor
  · intro gathered
    have succeeded : (db.gather kind policy).result = .ok codes := congrArg Logged.result gathered
    obtain ⟨passed, listed⟩ := gather_eq_ok_iff.mp succeeded
    have logged := log_gather_of_passed passed
    rw [gathered] at logged
    exact ⟨passed, listed, logged⟩
  · rintro ⟨passed, listed, rfl⟩
    rw [← log_gather_of_passed passed, ← gather_eq_ok_iff.mpr ⟨passed, listed⟩]

end Gather

/-- A fatal policy ends the gathering of codes if it objects to some use, and reports what it has
against the first of these. What is logged are the remarks on the uses before it, or on all uses if
nothing ends the work: one on each placeholder, and one on each use that a policy objects to which
is not fatal. -/
theorem gathering_ends_at_objection (db : Database) (kind : CodeKind) (policy : CodePolicy) :
    ((∃ fault, (db.gather kind policy).result = .error fault) ↔
      policy.fatal = true ∧ ∃ before use after fault,
        db.codeUses kind = before ++ use :: after ∧
        Objection kind policy (before.map (·.code)) use fault) ∧
    (∀ fault log, db.gather kind policy = ⟨log, .error fault⟩ ↔
      policy.fatal = true ∧ ∃ before use after,
        db.codeUses kind = before ++ use :: after ∧
        Unopposed kind policy [] before ∧
        Objection kind policy (before.map (·.code)) use fault ∧
        log = remarks kind policy [] before) ∧
    (∀ codes log, db.gather kind policy = ⟨log, .ok codes⟩ ↔
      (policy.fatal = true → Unopposed kind policy [] (db.codeUses kind)) ∧
      codes = db.distinctCodes kind ∧
      log = remarks kind policy [] (db.codeUses kind)) ∧
    ∀ earlier use event, remark? kind policy earlier use = some event ↔
      isPlaceholder use.code = true ∧ event = placeholderEvent kind use ∨
      policy.fatal = false ∧
        ∃ fault, Objection kind policy earlier use fault ∧ event = objectionEvent use fault := by
  refine ⟨gather_fails_iff, ?_, ?_, ?_⟩
  · intro fault log
    exact gather_eq_failed_iff
  · intro codes log
    exact gather_eq_passed_iff
  · intro earlier use event
    exact remark?_eq_some_iff

/-- A policy that allows empty codes but no shared ones ends the work at the second `F5Q`. One that
allows shared codes but no empty ones, and is not fatal, remarks on every empty code. -/
theorem mixed_codes_remarked :
    mixedDatabase.gather .board ⟨true, false, true⟩ =
      ⟨[placeholderEvent .board ⟨"MacPro6,1", "000"⟩],
        .error (.sharedCode "MacPro6,1" .board "F5Q")⟩ ∧
    (∃ before use after, mixedDatabase.codeUses .board = before ++ use :: after ∧
      Unopposed .board ⟨true, false, true⟩ [] before ∧
      Objection .board ⟨true, false, true⟩ (before.map (·.code)) use
        (.sharedCode "MacPro6,1" .board "F5Q") ∧
      [placeholderEvent .board ⟨"MacPro6,1", "000"⟩] =
        remarks .board ⟨true, false, true⟩ [] before) ∧
    mixedDatabase.gather .board ⟨false, true, false⟩ =
      ⟨[objectionEvent ⟨"MacPro6,1", ""⟩ (.emptyCode "MacPro6,1" .board),
        placeholderEvent .board ⟨"MacPro6,1", "000"⟩,
        placeholderEvent .board ⟨"iMac14,2", "0000"⟩,
        objectionEvent ⟨"iMac14,2", ""⟩ (.emptyCode "iMac14,2" .board)],
        .ok ["F5Q", "F9H", "FX2"]⟩ := by
  obtain ⟨_, failed, _⟩ := gathering_ends_at_objection mixedDatabase .board ⟨true, false, true⟩
  obtain ⟨_, _, passed, _⟩ := gathering_ends_at_objection mixedDatabase .board ⟨false, true, false⟩
  have stopped : mixedDatabase.gather .board ⟨true, false, true⟩ =
      ⟨[placeholderEvent .board ⟨"MacPro6,1", "000"⟩],
        .error (.sharedCode "MacPro6,1" .board "F5Q")⟩ := rfl
  obtain ⟨_, first⟩ := (failed _ _).mp stopped
  exact ⟨stopped, first, (passed _ _).mpr ⟨nofun, by decide, by decide⟩⟩

end ModelCatalog
