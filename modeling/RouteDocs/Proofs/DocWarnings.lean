import RouteDocs.Proofs.DocTotality

/-!
# What the warnings of a block account for

A line of a responses section that could begin a response gives a response that is kept, or a
warning with the number of a line of its section tells why not. Only a status that a later section
documents again is noted without a line. What a section says does not depend on the sections before
it, so both results are carried over the sections of a block by induction.
-/

namespace RouteDocs
open List Text OrderedMap

theorem OrderedMap.size_insert {κ υ : Type} [DecidableEq κ] (map : OrderedMap κ υ) (key : κ)
    (value : υ) :
    (map.insert key value).size + (if map.contains key then 1 else 0) = map.size + 1 := by
  have sizes (map : OrderedMap κ υ) : map.size = map.keys.length := by rw [size, keys, length_map]
  simp only [sizes, keys_insert, contains_iff]
  split_ifs
  · rfl
  · exact length_append

namespace Doc

/-- What a warning says about a line: it began a response that was lost, it could not begin one, it
is indented under no response, or something else. -/
inductive Kind where
  | lost
  | unrecognized
  | stray
  | other
deriving DecidableEq

def Concern.kind : Concern -> Kind
  | statusRange _ => .lost
  | droppedForIndentation _ => .lost
  | droppedForDescription _ => .lost
  | repeatedStatus _ => .lost
  | responseLine _ => .unrecognized
  | strayIndentation => .stray
  | _ => .other

def ofKind (kind : Kind) (warnings : List Warning) : List Warning :=
  warnings.filter fun warning => warning.concern.kind = kind

@[simp] theorem ofKind_append (kind : Kind) (first second : List Warning) :
    ofKind kind (first ++ second) = ofKind kind first ++ ofKind kind second :=
  filter_append ..

theorem ofKind_eq_nil (kind : Kind) (each : ∀ warning ∈ warnings, warning.concern.kind = given)
    (ne : given ≠ kind) : ofKind kind warnings = [] := by
  refine filter_eq_nil_iff.mpr fun warning mem => ?_
  rw [each warning mem, decide_eq_true_iff]
  exact ne

theorem ofKind_eq_self (each : ∀ warning ∈ warnings, warning.concern.kind = kind) :
    ofKind kind warnings = warnings :=
  filter_eq_self.mpr fun warning mem => decide_eq_true (each warning mem)

section Bullets

variable {kind : Kind}

theorem kind_outlineLines {prev : Nat} (failed : outlineLines prev lines = .error warning) :
    warning.concern.kind = .other := by
  rcases outlineLines_cases prev lines with ⟨-, _, read, -⟩ | ⟨-, _, _, _, -, -, -, told⟩
  · cases failed.symm.trans read
  · cases failed.symm.trans told
    unfold complaint
    split_ifs <;> rfl

theorem kind_partWarnings (status : Nat) (node : Outline) :
    ∀ warning ∈ partWarnings status node, warning.concern.kind = .other := by
  have examples (nodes : List Outline) :
      ∀ warning ∈ exampleWarnings nodes, warning.concern.kind = .other :=
    forall_mem_map.mpr fun _ _ => rfl
  have media (node : Outline) : ∀ warning ∈ mediaWarnings node, warning.concern.kind = .other := by
    refine forall_mem_flatMap.mpr fun child _ => ?_
    split_ifs
    · nofun
    · exact examples _
    · exact forall_mem_singleton.mpr rfl
  unfold partWarnings
  split_ifs
  · nofun
  · exact forall_mem_flatMap.mpr fun child _ => media child
  · exact media node
  · nofun
  · exact examples _
  · exact forall_mem_singleton.mpr rfl

/-- A bullet gives a response or one warning that says why there is none. -/
theorem length_ofKind_read {bullet : ResponseEntry} (telling : kind ≠ .other)
    (read : bullet.read = .ok found) :
    (ofKind kind found.2).length = if kind = .lost && found.1.isNone then 1 else 0 := by
  have single (line : Int) (concern : Concern) (loss : concern.kind = .lost) :
      (ofKind kind [⟨line, concern⟩]).length = if kind = .lost then 1 else 0 := by
    by_cases same : kind = .lost
    · rw [ofKind_eq_self (by simp [same, loss]), if_pos same]
      rfl
    · rw [ofKind_eq_nil kind (by simpa using loss) (Ne.symm same), if_neg same]
      rfl
  unfold ResponseEntry.read at read
  split_ifs at read
  · cases read
    simpa using single _ _ rfl
  · cases read
    cases bullet.body with
    | nil => simp [ofKind]
    | cons line rest =>
      rw [ofKind_eq_nil kind (by simp [Concern.kind]) telling.symm]
      simp
  · rw [readOutline] at read
    cases outlined : outlineLines 0 bullet.body with
    | error warning =>
      rw [outlined] at read
      cases read
      have silent : ofKind kind [warning] = [] := ofKind_eq_nil kind
        (forall_mem_singleton.mpr (kind_outlineLines outlined)) telling.symm
      rw [<- singleton_append, ofKind_append, silent]
      simpa using single _ _ rfl
    | ok lines =>
      rw [outlined] at read
      obtain ⟨draft, -, read⟩ := exists_of_bind_eq_ok read
      have silent : ofKind kind ((outlineOf lines).flatMap (partWarnings bullet.status)) = [] :=
        ofKind_eq_nil kind (forall_mem_flatMap.mpr fun node _ => kind_partWarnings _ node)
          telling.symm
      dsimp only at read
      split at read <;> cases read
      · simp [silent]
      · rw [ofKind_append, silent]
        simpa using single _ _ rfl
end Bullets

section Collecting

variable {collected post : Collected}

/-- The responses that are kept, and the warnings about lost ones. -/
def balance (responses : OrderedMap Int Response) (warnings : List Warning) : Nat :=
  responses.size + (ofKind .lost warnings).length

theorem balance_insert (responses : OrderedMap Int Response) (warnings : List Warning)
    (status line : Int) (resp : Response) : balance (responses.insert status resp) (warnings ++
      if responses.contains status then [⟨line, .repeatedStatus status⟩] else []) =
      balance responses warnings + 1 := by
  have size := responses.size_insert status resp
  have repeated : (ofKind .lost
      (if responses.contains status then [⟨line, .repeatedStatus status⟩] else [])).length =
        if responses.contains status then 1 else 0 := by
    split_ifs <;> rfl
  rw [balance, balance, ofKind_append, length_append, repeated]
  omega

theorem ofKind_repeated (ne : kind ≠ .lost) (seen : Bool) (line status : Int) :
    ofKind kind (if seen then [⟨line, .repeatedStatus status⟩] else []) = [] := by
  refine ofKind_eq_nil kind (fun warning mem => ?_) ne.symm
  split_ifs at mem
  · rw [mem_singleton.mp mem]
    rfl
  · cases mem

theorem addAll_account {bullets : List ResponseEntry} (read : collected.addAll bullets = .ok post) :
    balance post.responses post.warnings =
        balance collected.responses collected.warnings + bullets.length /\
      ∀ kind, kind ≠ .other -> kind ≠ .lost ->
        ofKind kind post.warnings = ofKind kind collected.warnings := by
  induction bullets generalizing collected with
  | nil =>
    cases read
    exact ⟨rfl, fun _ _ _ => rfl⟩
  | cons bullet rest ih =>
    obtain ⟨result, found, read⟩ := exists_of_bind_eq_ok read
    obtain ⟨balanced, others⟩ := ih read
    have lost : (ofKind .lost result.2).length = _ := length_ofKind_read nofun found
    have silent (kind : Kind) (telling : kind ≠ .other) (ne : kind ≠ .lost) :
        ofKind kind result.2 = [] :=
      eq_nil_of_length_eq_zero (by simpa [ne] using length_ofKind_read telling found)
    rw [balanced, length_cons]
    obtain ⟨_ | resp, warnings⟩ := result <;> simp at lost <;>
      refine ⟨?_, fun kind telling ne => (others kind telling ne).trans ?_⟩
    · simp only [Collected.add, balance, ofKind_append, length_append, lost]
      omega
    · simp [Collected.add, silent kind telling ne]
    · simp only [Collected.add, balance_insert]
      simp only [balance, ofKind_append, lost, append_nil]
      omega
    · simp [Collected.add, silent kind telling ne, ofKind_repeated ne]

theorem mergeResponses_account (responses : OrderedMap Int Response) (warnings : List Warning)
    (added : List (Int × Response)) :
    balance (mergeResponses responses warnings added).1 (mergeResponses responses warnings added).2 =
        balance responses warnings + added.length /\ ∀ kind, kind ≠ .lost ->
        ofKind kind (mergeResponses responses warnings added).2 = ofKind kind warnings := by
  induction added generalizing responses warnings with
  | nil => exact ⟨rfl, fun _ _ => rfl⟩
  | cons first rest ih =>
    have appended : (if responses.contains first.1 then
        warnings ++ [⟨0, .repeatedStatus first.1⟩] else warnings) =
          warnings ++ if responses.contains first.1 then [⟨0, .repeatedStatus first.1⟩] else [] := by
      split_ifs
      · rfl
      · exact (append_nil _).symm
    obtain ⟨balanced, others⟩ := ih (responses.insert first.1 first.2) (warnings ++
      if responses.contains first.1 then [⟨0, .repeatedStatus first.1⟩] else [])
    rw [mergeResponses, appended]
    refine ⟨?_, fun kind ne => ?_⟩
    · rw [balanced, balance_insert, length_cons]
      omega
    · rw [others kind ne, ofKind_append, ofKind_repeated ne, append_nil]
end Collecting

/-- The lines with text of a responses section, without the margin. -/
def Section.texts (part : Section) : List Line :=
  if part.title = "Responses".toList then
    (cutSpaces (part.lines.map fun line => { line with text := trimEnd line.text })).filter
      fun line => !isBlankText line.text
  else []

def isBullet (line : Line) : Bool := (responseBullet? line.text).isSome

def unrecognized (line : Line) : Warning :=
  ⟨line.number, .responseLine (String.ofList (trim line.text))⟩

def stray (line : Line) : Warning := ⟨line.number, .strayIndentation⟩

theorem splitEntries_heads (lines : List Line) :
    let texts := lines.filter fun line => !isBlankText line.text
    (splitEntries lines).1 = texts.takeWhile isIndented /\
      (splitEntries lines).2.map Entry.head = texts.filter (!isIndented ·) := by
  induction lines with
  | nil => exact ⟨rfl, rfl⟩
  | cons line rest ih =>
    obtain ⟨front, heads⟩ := ih
    by_cases blank : isBlankText line.text = true
    · simp only [splitEntries, filter_cons, blank]
      exact ⟨front, heads⟩
    · simp only [splitEntries, filter_cons, blank, front]
      by_cases indented : isIndented line = true <;> simp [indented, heads]

theorem length_bullets {entries : List Entry} (read : entries.mapM Entry.response? = .ok bullets) :
    (bullets.filterMap id).length = ((entries.map Entry.head).filter isBullet).length := by
  induction entries generalizing bullets with
  | nil =>
    cases read
    rfl
  | cons entry rest ih =>
    rw [mapM_cons] at read
    obtain ⟨bullet?, first, read⟩ := exists_of_bind_eq_ok read
    obtain ⟨others, later, same⟩ := exists_of_bind_eq_ok read
    cases same
    have counted := ih later
    have found : bullet?.isSome = isBullet entry.head := by
      unfold Entry.response? at first
      unfold isBullet
      split at first
      · cases first
        simp_all
      · obtain ⟨status, -, same⟩ := exists_of_bind_eq_ok first
        cases same
        simp_all
    cases bullet? <;> simp_all

theorem flatMap_warnings (entries : List Entry) : entries.flatMap Entry.warnings =
    ((entries.map Entry.head).filter (!isBullet ·)).map unrecognized := by
  induction entries with
  | nil => rfl
  | cons entry rest ih =>
    rw [flatMap_cons, ih, map_cons, filter_cons, Entry.warnings, isBullet]
    cases responseBullet? entry.head.text <;> rfl

/-- Every line of a responses section that could begin a response is accounted for. -/
theorem readResponses_account {lines : List Line} (read : readResponses lines = .ok collected) :
    let texts := (cutSpaces lines).filter fun line => !isBlankText line.text
    let heads := texts.filter (!isIndented ·)
    balance collected.responses collected.warnings = (heads.filter isBullet).length /\
      ofKind .unrecognized collected.warnings = (heads.filter (!isBullet ·)).map unrecognized /\
      ofKind .stray collected.warnings = (texts.takeWhile isIndented).map stray := by
  obtain ⟨front, heads⟩ := splitEntries_heads (cutSpaces lines)
  intro texts
  rw [readResponses] at read
  generalize splitEntries (cutSpaces lines) = split at read front heads
  obtain ⟨indented, entries⟩ := split
  dsimp only at read front heads
  obtain ⟨bullets, asked, read⟩ := exists_of_bind_eq_ok read
  obtain ⟨within, added, same⟩ := exists_of_bind_eq_ok read
  cases same
  obtain ⟨balanced, others⟩ := addAll_account added
  have strays : ∀ warning ∈ indented.map stray, warning.concern.kind = .stray := by
    simp [stray, Concern.kind]
  have unread (heads : List Line) :
      ∀ warning ∈ heads.map unrecognized, warning.concern.kind = .unrecognized := by
    simp [unrecognized, Concern.kind]
  change balance within.responses
      (indented.map stray ++ entries.flatMap Entry.warnings ++ within.warnings) = _ /\
    ofKind .unrecognized
      (indented.map stray ++ entries.flatMap Entry.warnings ++ within.warnings) = _ /\
    ofKind .stray
      (indented.map stray ++ entries.flatMap Entry.warnings ++ within.warnings) = _
  rw [flatMap_warnings, heads]
  rw [length_bullets asked, heads] at balanced
  refine ⟨?_, ?_, ?_⟩
  · rw [balance, ofKind_append, ofKind_append, ofKind_eq_nil .lost strays (by decide),
      ofKind_eq_nil .lost (unread _) (by decide)]
    exact balanced.trans (Nat.zero_add _)
  · rw [ofKind_append, ofKind_append, ofKind_eq_nil .unrecognized strays (by decide),
      ofKind_eq_self (unread _), others .unrecognized (by decide) (by decide)]
    exact append_nil _
  · rw [ofKind_append, ofKind_append, ofKind_eq_self strays,
      ofKind_eq_nil .stray (unread _) (by decide), others .stray (by decide) (by decide), front]
    exact (append_nil _).trans (append_nil _)

section Sections

variable {doc post : EndpointDoc} {part : Section}

theorem parameterWarnings_spec (line : Line) : ∀ warning ∈ parameterWarnings line,
    warning.concern.kind = .other /\ warning.line = line.number := by
  unfold parameterWarnings
  dsimp only
  split_ifs
  · nofun
  · split
    · exact forall_mem_singleton.mpr ⟨rfl, rfl⟩
    · split
      · nofun
      · exact forall_mem_singleton.mpr ⟨rfl, rfl⟩

theorem collected_account (added : addSection doc part = .ok post) :
    balance part.collected.responses part.collected.warnings =
        ((part.texts.filter (!isIndented ·)).filter isBullet).length /\
      ofKind .unrecognized part.collected.warnings =
        ((part.texts.filter (!isIndented ·)).filter (!isBullet ·)).map unrecognized /\
      ofKind .stray part.collected.warnings = (part.texts.takeWhile isIndented).map stray := by
  unfold Section.texts
  by_cases titled : part.title = "Responses".toList
  · simp only [if_pos titled]
    have ne : part.title ≠ "Parameters".toList := by rw [titled]; decide
    rw [Doc.addSection, if_neg ne, if_neg (by rw [titled]; decide), if_pos titled] at added
    obtain ⟨collected, read, -⟩ := exists_of_bind_eq_ok added
    refine readResponses_account (read.trans ?_)
    rw [Section.collected, if_neg ne, if_pos titled, read]
    rfl
  · simp only [if_neg titled]
    unfold Section.collected
    rw [if_neg titled]
    split_ifs
    · have silent (kind : Kind) (telling : kind ≠ .other) :
          ofKind kind (part.lines.flatMap parameterWarnings) = [] :=
        ofKind_eq_nil kind (forall_mem_flatMap.mpr fun line _ warning mem =>
          (parameterWarnings_spec line warning mem).1) telling.symm
      rw [balance, silent .lost nofun, silent .unrecognized nofun, silent .stray nofun]
      exact ⟨rfl, rfl, rfl⟩
    · exact ⟨rfl, rfl, rfl⟩
end Sections

/-- A warning has the number of a line that was read: nothing but the numbers of the lines could
tell the reading which numbers to use. -/
theorem line_of_readResponses (read : readResponses lines = .ok collected) :
    ∀ warning ∈ collected.warnings, ∃ line ∈ lines, warning.line = line.number := by
  -- A renumbering that changes every number except those of the lines.
  let keep (number : Nat) : Nat := if number ∈ lines.map Line.number then number else number + 1
  have same : lines.map (Line.renumbered keep) = lines := by
    refine (map_congr_left fun line mem => ?_).trans (map_id lines)
    exact congrArg (Line.mk · line.text) (if_pos (mem_map_of_mem mem))
  have renumbered := readResponses_renumbered keep lines
  rw [same, read] at renumbered
  have kept : collected.warnings.map id = collected.warnings.map (Warning.renumbered keep) :=
    (map_id _).trans (congrArg Collected.warnings (Except.ok.inj renumbered))
  intro warning mem
  have fixed : warning.line = keep warning.line.toNat :=
    congrArg Warning.line (map_inj_left.mp kept warning mem)
  by_cases known : warning.line.toNat ∈ lines.map Line.number
  · obtain ⟨line, listed, number⟩ := mem_map.mp known
    exact ⟨line, listed, by rw [fixed, number]; exact congrArg _ (if_pos (number ▸ known))⟩
  · rw [show keep warning.line.toNat = warning.line.toNat + 1 from if_neg known] at fixed
    omega

theorem line_of_collected {part : Section} (mem : warning ∈ part.collected.warnings) :
    (part.title = "Parameters".toList \/ part.title = "Responses".toList) /\
      ∃ line ∈ part.lines, warning.line = line.number := by
  unfold Section.collected at mem
  split_ifs at mem with parameters responses
  · refine ⟨.inl parameters, ?_⟩
    obtain ⟨line, listed, mem⟩ := mem_flatMap.mp mem
    exact ⟨line, listed, (parameterWarnings_spec line warning mem).2⟩
  · refine ⟨.inr responses, ?_⟩
    cases read : readResponses (part.lines.map fun line =>
      { line with text := trimEnd line.text }) with
    | error overflow =>
      rw [read] at mem
      cases mem
    | ok collected =>
      rw [read] at mem
      obtain ⟨trimmed, given, number⟩ := line_of_readResponses read warning mem
      obtain ⟨line, listed, rfl⟩ := mem_map.mp given
      exact ⟨line, listed, number⟩
  · cases mem

theorem mem_mergeResponses (nodup : (added.map Prod.fst).Nodup)
    (responses : OrderedMap Int Response) (warnings : List Warning) (warning : Warning) :
    warning ∈ (mergeResponses responses warnings added).2 ↔ warning ∈ warnings \/
      ∃ status ∈ added.map Prod.fst, responses.contains status /\
        warning = ⟨0, .repeatedStatus status⟩ := by
  induction added generalizing responses warnings with
  | nil => simp [mergeResponses]
  | cons first rest ih =>
    obtain ⟨fresh, nodup⟩ := nodup_cons.mp nodup
    have kept : ∀ status ∈ rest.map Prod.fst,
        (responses.insert first.1 first.2).contains status = responses.contains status := by
      intro status listed
      have ne : first.1 ≠ status := fun same => fresh (same ▸ listed)
      rw [OrderedMap.contains, responses.get?_insert_of_ne first.2 ne, OrderedMap.contains]
    rw [mergeResponses, ih nodup]
    grind

structure Accounted (parts : List Section) (doc : EndpointDoc) : Prop where
  bullets : balance doc.responses doc.warnings =
    (((parts.flatMap Section.texts).filter (!isIndented ·)).filter isBullet).length
  unrecognized : ofKind .unrecognized doc.warnings =
    (((parts.flatMap Section.texts).filter (!isIndented ·)).filter (!isBullet ·)).map unrecognized
  strays : ofKind .stray doc.warnings =
    (parts.flatMap fun part => part.texts.takeWhile isIndented).map stray
  places : ∀ warning ∈ doc.warnings, (∃ part ∈ parts, warning ∈ part.collected.warnings) \/
    ∃ status, warning = ⟨0, .repeatedStatus status⟩
  documented : ∀ status, doc.responses.contains status ↔
    1 <= parts.countP (·.collected.responses.contains status)
  repeated : ∀ status, (∃ part ∈ parts, ⟨0, .repeatedStatus status⟩ ∈ part.collected.warnings) \/
    2 <= parts.countP (·.collected.responses.contains status) ↔
      ⟨0, .repeatedStatus status⟩ ∈ doc.warnings

theorem Accounted.addSection (account : Accounted parts doc)
    (added : addSection doc part = .ok post) : Accounted (parts ++ [part]) post := by
  obtain ⟨balanced, unread, strays⟩ := collected_account added
  obtain ⟨kept, others⟩ := mergeResponses_account doc.responses
    (doc.warnings ++ part.collected.warnings) part.collected.responses.entries
  have same := mergeResponses_eq doc.responses (doc.warnings ++ part.collected.warnings)
    part.collected.responses.entries
  have noted := mem_mergeResponses part.collected.responses.distinct doc.responses
    (doc.warnings ++ part.collected.warnings)
  have said : (post.responses, post.warnings) = mergeResponses doc.responses
      (doc.warnings ++ part.collected.warnings) part.collected.responses.entries := by
    rw [addSection_eq added]
  rw [<- said] at kept others same noted
  have old := account.bullets
  have responses (status : Int) : post.responses.contains status ↔
      part.collected.responses.contains status \/ doc.responses.contains status := by
    have whole : ofList part.collected.responses.entries = part.collected.responses :=
      eq_of_entries
        (entries_ofList_of_nodup part.collected.responses.distinct)
    rw [show post.responses = _ from same]
    simp only [OrderedMap.contains, get?_insertAll, whole, Option.isSome_or, Bool.or_eq_true]
  have listed (status : Int) : status ∈ part.collected.responses.entries.map Prod.fst ↔
      part.collected.responses.contains status :=
    (contains_iff _ _).symm
  constructor
  · simp only [balance, ofKind_append, length_append, size, flatMap_append,
      flatMap_singleton, filter_append] at kept balanced old ⊢
    omega
  · simp [others .unrecognized (by decide), unread, account.unrecognized]
  · simp [others .stray (by decide), strays, account.strays]
  · intro warning mem
    rcases (noted warning).mp mem with known | ⟨status, -, -, same⟩
    · have places := account.places warning
      grind
    · exact .inr ⟨status, same⟩
  · intro status
    have pre := account.documented status
    rw [responses, pre, countP_append, countP_singleton]
    grind
  · intro status
    have pre := account.documented status
    have repeated := account.repeated status
    rw [noted, countP_append, countP_singleton]
    grind

theorem numberLines_bounds :
    ∀ line ∈ numberLines start texts, start <= line.number /\ line.number < start + texts.length := by
  induction texts generalizing start with
  | nil => nofun
  | cons text rest ih =>
    intro line mem
    rcases mem_cons.mp mem with rfl | mem
    · exact ⟨le_rfl, by simp⟩
    · have later := ih line mem
      rw [length_cons]
      omega
end Doc

namespace EndpointDoc
open Doc

theorem accounted (read : ofText text = .ok doc) : Accounted (blockSections text) doc := by
  unfold ofText ofLines at read
  refine foldlM_induction ?_ (fun _ _ _ _ added account => account.addSection added) read
  exact ⟨rfl, rfl, rfl, nofun, fun status => iff_of_false nofun nofun,
    fun status => iff_of_false nofun nofun⟩

/-- No bullet is lost without a word: each gives a response that is kept or one warning that there
is none. Every other unindented line gives one warning, and so does every indented line in front of
the first unindented one. -/
theorem bullets_accounted {text : String} {doc : EndpointDoc} (read : ofText text = .ok doc) :
    let heads := ((blockSections text).flatMap Section.texts).filter (!isIndented ·)
    (heads.filter isBullet).length = doc.responses.size + (ofKind .lost doc.warnings).length /\
      ofKind .unrecognized doc.warnings = (heads.filter (!isBullet ·)).map unrecognized /\
      ofKind .stray doc.warnings =
        ((blockSections text).flatMap fun part => part.texts.takeWhile isIndented).map stray := by
  have account := accounted read
  exact ⟨account.bullets.symm, account.unrecognized, account.strays⟩

/-- Of three bullets one is kept, and two warnings tell what happened to the others. -/
theorem bullets_accounted_stock :
    let text := "Stock\n\n# Responses\n  soon\n- 200: Items\n- 99: Odd\nsee the wiki\n- 200: All"
    ∃ doc, ofText text = .ok doc /\ doc.responses.size + (ofKind .lost doc.warnings).length = 3 /\
      ofKind .unrecognized doc.warnings = [⟨7, .responseLine "see the wiki"⟩] /\
      ofKind .stray doc.warnings = [⟨4, .strayIndentation⟩] := by
  intro text
  obtain ⟨doc, accepted⟩ : ∃ doc, ofText text = .ok doc := exists_ok (by decide +kernel)
  obtain ⟨bullets, unread, strays⟩ := bullets_accounted accepted
  refine ⟨doc, accepted, bullets.symm.trans ?_, unread.trans ?_, strays.trans ?_⟩ <;> decide +kernel

/-- A warning has the number of a line in a section about parameters or responses, or it notes a
status without a line. The latter happens if and only if two sections document the status. -/
theorem warning_lines {text : String} {doc : EndpointDoc} (read : ofText text = .ok doc) :
    (∀ warning ∈ doc.warnings, (∃ part ∈ blockSections text,
        (part.title = "Parameters".toList \/ part.title = "Responses".toList) /\
          ∃ line ∈ part.lines, warning.line = line.number /\ 1 <= line.number /\
            line.number <= (splitLines (cleanBlock text.toList)).length) \/
      ∃ status, warning = ⟨0, .repeatedStatus status⟩) /\
      ∀ status, ⟨0, .repeatedStatus status⟩ ∈ doc.warnings ↔
        2 <= (blockSections text).countP (·.collected.responses.contains status) := by
  have bounds : ∀ part ∈ blockSections text, ∀ line ∈ part.lines, 1 <= line.number /\
      line.number < 1 + (splitLines (cleanBlock text.toList)).length :=
    fun part listed line mem => numberLines_bounds line ((lines_of_section _).2 part listed mem)
  have account := accounted read
  refine ⟨fun warning mem => ?_, fun status => (account.repeated status).symm.trans ?_⟩
  · refine (account.places warning mem).imp_left fun ⟨part, listed, said⟩ => ?_
    obtain ⟨titled, line, inside, number⟩ := line_of_collected said
    have within := bounds part listed line inside
    exact ⟨part, listed, titled, line, inside, number, within.1, by omega⟩
  · refine or_iff_right fun ⟨part, listed, said⟩ => ?_
    obtain ⟨-, line, inside, number⟩ := line_of_collected said
    have within := bounds part listed line inside
    dsimp only at number
    omega

/-- Two sections about one status give a warning with a line that no block has. -/
theorem repeat_without_line :
    let text := "Get a page\n\n# Responses\n- 200: A page\n\n# Responses\n- 200: Another page"
    (ofText text).toOption.map (·.warnings) = some [⟨0, .repeatedStatus 200⟩] := by
  decide +kernel

/-- Within one section a repeated status is noted with its line. -/
theorem warning_lines_page :
    let text := "Get a page\n\n# Responses\n- 200: A page\n- 200: Another page"
    ∃ doc, ofText text = .ok doc /\ ⟨5, .repeatedStatus 200⟩ ∈ doc.warnings /\
      ⟨0, .repeatedStatus 200⟩ ∉ doc.warnings := by
  intro text
  obtain ⟨doc, accepted⟩ : ∃ doc, ofText text = .ok doc := exists_ok (by decide +kernel)
  have noted : (ofText text).toOption.map (·.warnings) = some [⟨5, .repeatedStatus 200⟩] := by
    decide +kernel
  rw [accepted] at noted
  have repeated := (warning_lines accepted).2 200
  refine ⟨doc, accepted, ?_, fun mem => absurd (repeated.mp mem) (by decide +kernel)⟩
  rw [show doc.warnings = _ from Option.some.inj noted]
  exact .head _
end EndpointDoc
end RouteDocs
