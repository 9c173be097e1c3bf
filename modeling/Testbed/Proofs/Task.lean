import Mathlib.Data.List.Forall2
import Testbed.Proofs.Identity
import Testbed.Worker

/-!
Lists of tasks as texts.

A list of tasks is written with semicolons between the tasks and dashes between the parts of a task.  Reading
cuts at the first two dashes of each segment, so what is read back is what was written exactly if no part
holds a mark that would be taken for a cut.  `parse_eq_ok` and `parseList_eq_ok` say which texts are read, and
as what; the theorem about the trip there and back follows from them.
-/

namespace Testbed

/-! ### Cutting and joining -/

namespace Text

/-- Cutting at every separator is the same as in the library. -/
theorem splitAt_eq_splitOn (mark : Char) (cs : List Char) : splitAt mark cs = cs.splitOn mark := by
  induction cs with
  | nil => rfl
  | cons c rest ih =>
      have some_piece := List.splitOn_ne_nil mark rest
      rw [splitAt, ih, List.splitOn_cons_eq_if_modifyHead]
      by_cases cut : c = mark
      · simp [cut]
      · cases pieces : rest.splitOn mark with
        | nil => exact absurd pieces some_piece
        | cons piece pieces => simp [cut]

/-- No piece holds the separator. -/
theorem notMem_of_mem_splitOn {mark : Char} {cs piece : List Char} (mem : piece ∈ cs.splitOn mark) :
    mark ∉ piece := by
  induction cs generalizing piece with
  | nil =>
      obtain rfl : piece = [] := by simpa using mem
      exact List.not_mem_nil
  | cons c rest ih =>
      rw [List.splitOn_cons_eq_if_modifyHead] at mem
      by_cases cut : c = mark
      · simp only [cut, beq_self_eq_true, if_true, List.mem_cons] at mem
        rcases mem with rfl | mem
        · exact List.not_mem_nil
        · exact ih mem
      · cases pieces : rest.splitOn mark with
        | nil => exact absurd pieces (List.splitOn_ne_nil mark rest)
        | cons first others =>
            simp only [pieces, beq_iff_eq, cut, if_false, List.modifyHead_cons, List.mem_cons] at mem
            rcases mem with rfl | mem
            · have plain : mark ∉ first := ih (by simp [pieces])
              simp [Ne.symm cut, plain]
            · exact ih (by simp [pieces, mem])

/-- Cutting stops at the first separator. -/
theorem cutAt_append {mark : Char} {before : List Char} (plain : mark ∉ before) (after : List Char) :
    cutAt mark (before ++ mark :: after) = (before, some after) := by
  induction before with
  | nil => simp [cutAt]
  | cons c rest ih =>
      obtain ⟨other, plainRest⟩ := not_or.1 fun mem => plain (List.mem_cons.2 mem)
      simp [cutAt, Ne.symm other, ih plainRest]

end Text

/-! ### Single tasks -/

namespace TaskKind

/-- There is no dash in the kind of a task. -/
theorem dash_notMem_text (kind : TaskKind) : '-' ∉ kind.text.toList := by cases kind <;> decide

/-- There is no semicolon in the kind of a task. -/
theorem semicolon_notMem_text (kind : TaskKind) : ';' ∉ kind.text.toList := by cases kind <;> decide

/-- The kind of a task is written in small letters. -/
theorem map_toLower_text (kind : TaskKind) : kind.text.toList.map Char.toLower = kind.text.toList := by
  cases kind <;> decide

/-- Kinds of tasks are told apart by their texts. -/
theorem text_injective {kind other : TaskKind} (h : kind.text.toList = other.text.toList) :
    kind = other := by
  cases kind <;> cases other <;> first | rfl | exact absurd h (by decide)

/-- A kind is read from its written form in letters of any case, and from nothing else. -/
theorem parse_eq_ok {cs : List Char} {kind : TaskKind} :
    parse cs = .ok kind ↔ cs.map Char.toLower = kind.text.toList := by
  rw [parse]
  cases found : all.find? fun kind => kind.text.toList = cs.map Char.toLower with
  | none =>
      have other := List.find?_eq_none.1 found kind (by cases kind <;> decide)
      simp only [decide_eq_true_eq] at other
      simp [Ne.symm other]
  | some first =>
      have same : first.text.toList = cs.map Char.toLower := by simpa using List.find?_some found
      simp only [Except.ok.injEq, ← same]
      exact ⟨fun h => h ▸ rfl, text_injective⟩

/-- A dash is a dash in letters of any case. -/
theorem notMem_of_map_toLower {cs : List Char} {kind : TaskKind} {c : Char} (plain : c.toLower = c)
    (absent : c ∉ kind.text.toList) (h : cs.map Char.toLower = kind.text.toList) : c ∉ cs := by
  intro mem
  exact absent (h ▸ List.mem_map.2 ⟨c, mem, plain⟩)

end TaskKind

namespace Task

/-- The texts of a task: its kind in letters of any case, its run and its own identifier, with dashes
between.  Neither name is empty, and the name of the run has no dash. -/
structure Names (cs : List Char) (t : Task) : Prop where
  spelled : ∃ letters : List Char, letters.map Char.toLower = t.kind.text.toList ∧
    cs = letters ++ '-' :: (t.runId.toList ++ '-' :: t.taskId.toList)
  run : t.runId ≠ ""
  undashed : '-' ∉ t.runId.toList
  own : t.taskId ≠ ""

/-- What is parsed as a task names it. -/
theorem Names.of_parse {cs : List Char} {t : Task} (h : parse cs = .ok t) : Names cs t := by
  rw [parse] at h
  split at h
  · next letters rest first =>
      obtain ⟨rfl, -⟩ := Text.cutAt_some first
      split at h
      · next run own second =>
          obtain ⟨rfl, undashed⟩ := Text.cutAt_some second
          split at h
          · cases h
          · next filled =>
              simp only [Bool.or_eq_true, List.isEmpty_iff, not_or] at filled
              cases kind : TaskKind.parse letters with
              | error error => simp [kind, bind, Except.bind] at h
              | ok kind' =>
                  simp only [kind, bind, Except.bind, pure, Except.pure, Except.ok.injEq] at h
                  subst h
                  exact
                    { spelled := ⟨letters, TaskKind.parse_eq_ok.1 kind, by simp⟩
                      run := by simpa using filled.1
                      undashed := by simpa using undashed
                      own := by simpa using filled.2 }
      · cases h
  · cases h

/-- What names a task is parsed as it. -/
theorem Names.parse {cs : List Char} {t : Task} (h : Names cs t) : parse cs = .ok t := by
  obtain ⟨⟨letters, kind, rfl⟩, run, undashed, own⟩ := h
  have plain : '-' ∉ letters :=
    TaskKind.notMem_of_map_toLower (by decide) t.kind.dash_notMem_text kind
  have filled : ¬ (t.runId.toList.isEmpty || t.taskId.toList.isEmpty) = true := by
    simp [run, own]
  rw [Task.parse, Text.cutAt_append plain]
  simp only [Text.cutAt_append undashed, if_neg filled, TaskKind.parse_eq_ok.2 kind,
    String.ofList_toList]
  rfl

/-- What is read as a task. -/
theorem parse_eq_ok {cs : List Char} {t : Task} : parse cs = .ok t ↔ Names cs t :=
  ⟨Names.of_parse, Names.parse⟩

/-! ### Lists of tasks -/

/-- A task whose parts hold no mark that would be taken for a cut. -/
structure Plain (t : Task) : Prop where
  run : t.runId ≠ ""
  undashed : '-' ∉ t.runId.toList
  closedRun : ';' ∉ t.runId.toList
  own : t.taskId ≠ ""
  closedOwn : ';' ∉ t.taskId.toList

/-- A text without a semicolon names plain tasks only. -/
theorem Names.plain {cs : List Char} {t : Task} (h : Names cs t) (closed : ';' ∉ cs) : t.Plain := by
  obtain ⟨⟨letters, -, rfl⟩, run, undashed, own⟩ := h
  simp only [List.mem_append, List.mem_cons, not_or] at closed
  exact ⟨run, undashed, closed.2.2.1, own, closed.2.2.2.2⟩

/-- A plain task is named by its own text, which has no semicolon. -/
theorem Plain.names {t : Task} (h : t.Plain) : Names t.chars t where
  spelled := ⟨t.kind.text.toList, t.kind.map_toLower_text, by simp [chars]⟩
  run := h.run
  undashed := h.undashed
  own := h.own

/-- A plain task is written without a semicolon. -/
theorem Plain.closed {t : Task} (h : t.Plain) : ';' ∉ t.chars := by
  simp [chars, h.closedRun, h.closedOwn, t.kind.semicolon_notMem_text]

/-- No task is written as an empty text. -/
theorem chars_ne_nil (t : Task) : t.chars ≠ [] := by simp [chars]

/-- Segments are parsed as tasks exactly if each of them names its own. -/
theorem mapM_parse_eq_ok {segments : List (List Char)} {tasks : List Task} :
    segments.mapM parse = .ok tasks ↔ List.Forall₂ Names segments tasks := by
  induction segments generalizing tasks with
  | nil =>
      rw [List.mapM_nil, List.forall₂_nil_left_iff]
      exact ⟨fun h => (Except.ok.inj h).symm, fun h => h ▸ rfl⟩
  | cons segment rest ih =>
      rw [List.mapM_cons, List.forall₂_cons_left_iff]
      constructor
      · intro h
        cases first : parse segment with
        | error error => simp [first, bind, Except.bind] at h
        | ok t =>
            cases others : rest.mapM parse with
            | error error => simp [first, others, bind, Except.bind] at h
            | ok ts =>
                simp only [first, others, bind, Except.bind, pure, Except.pure,
                  Except.ok.injEq] at h
                exact ⟨t, ts, parse_eq_ok.1 first, ih.1 others, h.symm⟩
      · rintro ⟨t, ts, first, others, rfl⟩
        rw [parse_eq_ok.2 first, ih.2 others]
        rfl

/-- What is read as a list of tasks: nothing, or segments with semicolons between. -/
theorem parseList_eq_ok {s : String} {tasks : List Task} :
    parseList s = .ok tasks ↔
      s = "" ∧ tasks = [] ∨ s ≠ "" ∧ List.Forall₂ Names (s.toList.splitOn ';') tasks := by
  rw [parseList, Text.splitAt_eq_splitOn]
  by_cases empty : s = ""
  · subst empty
    simp [eq_comm]
  · rw [if_neg (by simpa using empty), mapM_parse_eq_ok]
    simp [empty]

/-- Segments without semicolons name plain tasks only. -/
theorem plain_of_names {segments : List (List Char)} {tasks : List Task}
    (named : List.Forall₂ Names segments tasks) (closed : ∀ segment ∈ segments, ';' ∉ segment) :
    ∀ t ∈ tasks, t.Plain := by
  induction named with
  | nil => simp
  | cons first others ih =>
      obtain ⟨here, later⟩ := List.forall_mem_cons.1 closed
      exact List.forall_mem_cons.2 ⟨first.plain here, ih later⟩

/-- Whatever is read as a list of tasks, the tasks are plain. -/
theorem plain_of_parseList {s : String} {tasks : List Task} (h : parseList s = .ok tasks) :
    ∀ t ∈ tasks, t.Plain := by
  rcases parseList_eq_ok.1 h with ⟨-, rfl⟩ | ⟨-, named⟩
  · simp
  · exact plain_of_names named fun segment mem => Text.notMem_of_mem_splitOn mem

/-- Plain tasks are read back from their list. -/
theorem parseList_listText {tasks : List Task} (plain : ∀ t ∈ tasks, t.Plain) :
    parseList (listText tasks) = .ok tasks := by
  rw [parseList_eq_ok]
  cases tasks with
  | nil => exact .inl ⟨rfl, rfl⟩
  | cons t rest =>
      have pieces : (listText (t :: rest)).toList.splitOn ';' = (t :: rest).map chars := by
        rw [listText, String.toList_ofList]
        refine List.splitOn_intercalate ';' ?_ (by simp)
        intro piece mem
        obtain ⟨other, listed, rfl⟩ := List.mem_map.1 mem
        exact (plain other listed).closed
      refine .inr ⟨?_, ?_⟩
      · intro empty
        rw [empty] at pieces
        have first : t.chars = [] := by simpa using (congrArg List.head? pieces).symm
        exact t.chars_ne_nil first
      · rw [pieces, List.forall₂_map_left_iff, List.forall₂_same]
        exact fun other mem => (plain other mem).names

/-! ### The text of what was read -/

/-- A text of tasks with the letters of the kinds in lower case.  A kind ends at the first dash; the next one
begins after a semicolon. -/
def lowerKinds (inKind : Bool) : List Char → List Char
  | [] => []
  | c :: rest =>
    if c = ';' then c :: lowerKinds true rest
    else if c = '-' then c :: lowerKinds false rest
    else (if inKind then c.toLower else c) :: lowerKinds inKind rest

/-- Lowering the kinds of some segments lowers each of them. -/
theorem lowerKinds_append (inKind : Bool) (segment rest : List Char) :
    lowerKinds inKind (segment ++ ';' :: rest) =
      lowerKinds inKind segment ++ ';' :: lowerKinds true rest := by
  induction segment generalizing inKind with
  | nil => simp [lowerKinds]
  | cons c segment ih =>
      simp only [List.cons_append, lowerKinds, ih]
      split
      · rfl
      · split <;> rfl

/-- Behind the first dash of a segment nothing is lowered. -/
theorem lowerKinds_false {segment : List Char} (closed : ';' ∉ segment) :
    lowerKinds false segment = segment := by
  induction segment with
  | nil => rfl
  | cons c segment ih =>
      obtain ⟨other, closedRest⟩ := not_or.1 fun mem => closed (List.mem_cons.2 mem)
      simp only [lowerKinds, if_neg (Ne.symm other), ih closedRest]
      split <;> simp

/-- The kind of a segment is lowered up to its dash. -/
theorem lowerKinds_true {letters : List Char} (closed : ';' ∉ letters) (undashed : '-' ∉ letters)
    (rest : List Char) :
    lowerKinds true (letters ++ '-' :: rest) =
      letters.map Char.toLower ++ '-' :: lowerKinds false rest := by
  induction letters with
  | nil => simp [lowerKinds]
  | cons c letters ih =>
      simp only [List.mem_cons, not_or] at closed undashed
      simp only [List.cons_append, List.map_cons, lowerKinds, if_neg (Ne.symm closed.1),
        if_neg (Ne.symm undashed.1), if_true, ih closed.2 undashed.2]

/-- A text of a task is its written form, but for the case of the letters of its kind. -/
theorem Names.lowerKinds_eq {cs : List Char} {t : Task} (h : Names cs t) (closed : ';' ∉ cs) :
    lowerKinds true cs = t.chars := by
  obtain ⟨⟨letters, kind, rfl⟩, -, -, -⟩ := h
  simp only [List.mem_append, not_or] at closed
  have undashed : '-' ∉ letters :=
    TaskKind.notMem_of_map_toLower (by decide) t.kind.dash_notMem_text kind
  have rest : ';' ∉ t.runId.toList ++ '-' :: t.taskId.toList := by
    simpa using closed.2
  rw [lowerKinds_true closed.1 undashed, lowerKinds_false rest, kind, chars]
  simp

/-- Lowering the kinds in a list writes it as its tasks are written. -/
theorem lowerKinds_intercalate {segments : List (List Char)} {tasks : List Task}
    (named : List.Forall₂ Names segments tasks) (closed : ∀ segment ∈ segments, ';' ∉ segment) :
    lowerKinds true ([';'].intercalate segments) = [';'].intercalate (tasks.map chars) := by
  induction named with
  | nil => rfl
  | @cons segment t segments tasks first others ih =>
      have here := first.lowerKinds_eq (closed segment (by simp))
      have later := ih fun other mem => closed other (by simp [mem])
      cases others with
      | nil => simpa using here
      | cons second others =>
          rw [List.map_cons, List.map_cons, List.intercalate_cons_cons, List.intercalate_cons_cons,
            List.append_assoc, List.singleton_append, lowerKinds_append, here, later, List.map_cons]
          simp

/-- Writing the tasks that were read gives back the text, with the letters of the kinds in lower case. -/
theorem listText_of_parseList {s : String} {tasks : List Task} (h : parseList s = .ok tasks) :
    (listText tasks).toList = lowerKinds true s.toList := by
  rcases parseList_eq_ok.1 h with ⟨rfl, rfl⟩ | ⟨-, named⟩
  · rfl
  · have text := lowerKinds_intercalate named fun segment mem => Text.notMem_of_mem_splitOn mem
    rw [List.intercalate_splitOn] at text
    rw [listText, String.toList_ofList, text]

/-- Segments that each name a task are read. -/
theorem exists_parseList {segments : List (List Char)} (some_segment : segments ≠ [])
    (named : ∀ segment ∈ segments, ';' ∉ segment ∧ ∃ t, Names segment t) {s : String}
    (joined : s.toList = [';'].intercalate segments) : ∃ tasks, parseList s = .ok tasks := by
  have cut : s.toList.splitOn ';' = segments := by
    rw [joined, List.splitOn_intercalate ';' (fun segment mem => (named segment mem).1) some_segment]
  have tasks : ∃ tasks, List.Forall₂ Names segments tasks := by
    clear cut joined some_segment
    induction segments with
    | nil => exact ⟨[], .nil⟩
    | cons segment rest ih =>
        obtain ⟨⟨-, t, first⟩, others⟩ := List.forall_mem_cons.1 named
        obtain ⟨tasks, later⟩ := ih others
        exact ⟨t :: tasks, .cons first later⟩
  obtain ⟨tasks, named⟩ := tasks
  refine ⟨tasks, parseList_eq_ok.2 (.inr ⟨?_, cut ▸ named⟩)⟩
  rintro rfl
  obtain rfl : [[]] = segments := by simpa using cut
  obtain ⟨t, -, nothing, -, -⟩ := List.forall₂_cons_left_iff.1 named
  obtain ⟨letters, -, spelled⟩ := nothing.spelled
  simp at spelled

/-- A text is read exactly if it is empty or joined from segments that each name a task. -/
theorem exists_parseList_iff {s : String} :
    (∃ tasks, parseList s = .ok tasks) ↔
      s = "" ∨ ∃ segments : List (List Char), segments ≠ [] ∧ s.toList = [';'].intercalate segments ∧
        ∀ segment ∈ segments, ';' ∉ segment ∧ ∃ t, Names segment t := by
  constructor
  · rintro ⟨tasks, h⟩
    rcases parseList_eq_ok.1 h with ⟨empty, -⟩ | ⟨-, named⟩
    · exact .inl empty
    · refine .inr ⟨_, List.splitOn_ne_nil _ _, (List.intercalate_splitOn _).symm, ?_⟩
      intro segment mem
      obtain ⟨i, inside, rfl⟩ := List.getElem_of_mem mem
      exact ⟨Text.notMem_of_mem_splitOn mem, _, named.get inside (named.length_eq ▸ inside)⟩
  · rintro (rfl | ⟨segments, some_segment, joined, named⟩)
    · exact ⟨[], rfl⟩
    · exact exists_parseList some_segment named joined

end Task

/-! ### Workers -/

namespace Worker

/-- The tasks that a worker is told of at its start. -/
theorem get?_environment_tasks (w : Worker) (o : Config.Orchestration) :
    (w.environment o).get? "HATCHET_EDGE_ACCEPTABLE_TASKS" = some (Task.listText w.acceptableTasks) :=
  Table.get?_insertAll_of_mem _ (by simp) (by simp)

/-- The tokens in the tasks of a new worker hold no mark, so all depends on the name of the run. -/
theorem plain_new_iff {tokens : Nat} {runId role : String} {kinds : List TaskKind}
    {metadata : Table String} :
    (∀ t ∈ (new tokens runId role kinds metadata).acceptableTasks, t.Plain) ↔
      kinds = [] ∨ runId ≠ "" ∧ '-' ∉ runId.toList ∧ ';' ∉ runId.toList := by
  constructor
  · intro plain
    cases kinds with
    | nil => exact .inl rfl
    | cons kind rest =>
        have first := plain { kind, runId, taskId := token tokens } (by simp [new])
        exact .inr ⟨first.run, first.undashed, first.closedRun⟩
  · rintro (rfl | ⟨run, undashed, closed⟩) t mem
    · simp [new] at mem
    · obtain ⟨⟨kind, i⟩, -, rfl⟩ := List.mem_map.1 mem
      refine ⟨run, undashed, closed, token_ne_empty _, ?_⟩
      intro semicolon
      obtain ⟨d, digit, mark⟩ := mem_token semicolon
      exact absurd mark ((by decide : ∀ d < 16, ';' ≠ Nat.digitChar d) d digit)

end Worker

namespace Task

/-- Which lists of tasks come back from their text, what the text of a list that was read is, which texts are
read at all, and what this says about the list that a worker finds in its environment. -/
theorem lists_survive_iff_plain :
    (∀ tasks : List Task, parseList (listText tasks) = .ok tasks ↔ ∀ t ∈ tasks, t.Plain) ∧
    (∀ (s : String) (tasks : List Task), parseList s = .ok tasks →
      (listText tasks).toList = lowerKinds true s.toList) ∧
    (∀ s : String, (∃ tasks, parseList s = .ok tasks) ↔
      s = "" ∨ ∃ segments : List (List Char), segments ≠ [] ∧ s.toList = [';'].intercalate segments ∧
        ∀ segment ∈ segments, ';' ∉ segment ∧ ∃ t, Names segment t) ∧
    (∀ (w : Worker) (o : Config.Orchestration),
      ((w.environment o).get? "HATCHET_EDGE_ACCEPTABLE_TASKS").map parseList = some (.ok w.acceptableTasks) ↔
        ∀ t ∈ w.acceptableTasks, t.Plain) ∧
    ∀ (tokens : Nat) (runId role : String) (kinds : List TaskKind) (metadata : Table String),
      parseList (listText (Worker.new tokens runId role kinds metadata).acceptableTasks) =
          .ok (Worker.new tokens runId role kinds metadata).acceptableTasks ↔
        kinds = [] ∨ runId ≠ "" ∧ '-' ∉ runId.toList ∧ ';' ∉ runId.toList := by
  have survive : ∀ tasks : List Task, parseList (listText tasks) = .ok tasks ↔ ∀ t ∈ tasks, t.Plain :=
    fun tasks => ⟨plain_of_parseList, parseList_listText⟩
  refine ⟨survive, fun s tasks => listText_of_parseList, fun s => exists_parseList_iff, ?_, ?_⟩
  · intro w o
    rw [Worker.get?_environment_tasks, ← survive]
    simp
  · intro tokens runId role kinds metadata
    rw [survive, Worker.plain_new_iff]

/-- A list whose kinds are written in mixed case, with a dash in the identifier of the second task. -/
def mixedList : String := "Setup_Containers-r-1;RUN_STROPPY-r-2-b"

/-- The text of the tasks that are read from a list has the kinds in lower case, and the rest as it was. -/
theorem mixedList_is_written_back :
    parseList mixedList = .ok [⟨.setupContainers, "r", "1"⟩, ⟨.runStroppy, "r", "2-b"⟩] ∧
      (listText [⟨.setupContainers, "r", "1"⟩, ⟨.runStroppy, "r", "2-b"⟩]).toList =
        "setup_containers-r-1;run_stroppy-r-2-b".toList := by
  have read : parseList mixedList = .ok [⟨.setupContainers, "r", "1"⟩, ⟨.runStroppy, "r", "2-b"⟩] := by
    decide +kernel
  refine ⟨read, (lists_survive_iff_plain.2.1 _ _ read).trans ?_⟩
  decide +kernel

end Task

end Testbed
