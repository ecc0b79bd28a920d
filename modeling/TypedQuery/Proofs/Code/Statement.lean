import TypedQuery.Proofs.Code.Field
import TypedQuery.Proofs.Query.BindOrder

/-! The statement that makes a query. Both asynchronous helpers begin with it, and it binds the fields
of the input type in the order of the placeholders. -/
namespace TypedQuery.Code

def endsWith (c : Char) (line : String) : Bool := line.toList.getLast? = some c

/-- The line with which an asynchronous helper begins. -/
def asyncHead (name : String) : String := "    pub async fn " ++ name ++ "("

/-- What an asynchronous helper does before the first block inside it. A brace at the end of a line
opens its own block and those inside. -/
def preamble (name : String) (lines : List String) : List String :=
  (((lines.dropWhile (· ≠ asyncHead name)).dropWhile (!endsWith '\x7b' ·)).drop 1).takeWhile
    (!endsWith '\x7b' ·)

/-- The calls bind the parameters in the order given, none left out. -/
structure BindsInOrder (params : List Parameter) (declarations : List String) (order : List Nat)
    (calls : List String) : Prop where
  length_eq : calls.length = order.length
  call : ∀ k i : Nat, order[k]? = some i → ∃ (p : Parameter) (type : String), params[i]? = some p ∧
    declarations[i]? = some s!"    pub {fieldIdent p.name}: {type}," ∧
    calls[k]? = some (if type = "char" then s!".bind(input.{fieldIdent p.name}.to_string())"
      else s!".bind(&input.{fieldIdent p.name})")

section Ends

variable {c d : Char} {front back line name : String} {lines : List String}

theorem endsWith_append (h : back ≠ "") : endsWith c (front ++ back) = endsWith c back := by
  have hback : back.toList ≠ [] := mt String.toList_eq_nil_iff.mp h
  rw [endsWith, String.toList_append, List.getLast?_append_of_ne_nil _ hback]
  rfl

theorem endsWith_append_of_endsWith (h : endsWith c back) : endsWith c (front ++ back) := by
  have hback : back ≠ "" := fun hnil => by simp [hnil, endsWith] at h
  rwa [endsWith_append hback]

theorem endsWith_eq_false (h : endsWith c line) (hne : c ≠ d) : endsWith d line = false := by
  rw [endsWith, decide_eq_true_eq] at h
  rw [endsWith, h, decide_eq_false_iff_not, Option.some_inj]
  exact hne

theorem endsWith_asyncHead (name : String) : endsWith '(' (asyncHead name) :=
  endsWith_append (by decide)

theorem mem_endStatement (h : line ∈ endStatement lines) :
    line ∈ lines ∨ ∃ front, line = front ++ ";" := by
  fun_induction endStatement lines with
  | case1 => cases h
  | case2 last => exact .inr ⟨last, List.mem_singleton.mp h⟩
  | case3 first rest _ ih =>
    rcases List.mem_cons.mp h with rfl | h
    · exact .inl List.mem_cons_self
    · exact (ih h).imp_left (List.mem_cons_of_mem first)

theorem preamble_append {before signature body after : List String} {opening block : String}
    (hbefore : asyncHead name ∉ before)
    (hsignature : ∀ line ∈ signature, endsWith '\x7b' line = false)
    (hopening : endsWith '\x7b' opening)
    (hbody : ∀ line ∈ body, endsWith '\x7b' line = false) (hblock : endsWith '\x7b' block) :
    preamble name
      (before ++ asyncHead name :: (signature ++ opening :: (body ++ block :: after))) = body := by
  have hhead : endsWith '\x7b' (asyncHead name) = false :=
    endsWith_eq_false (endsWith_asyncHead name) (by decide)
  have hskip : ∀ line ∈ before, decide (line ≠ asyncHead name) = true := fun line hline =>
    decide_eq_true (ne_of_mem_of_not_mem hline hbefore)
  rw [preamble, List.dropWhile_append_of_pos hskip,
    List.dropWhile_cons_of_neg (by simp), List.dropWhile_cons_of_pos (by rw [hhead]; rfl),
    List.dropWhile_append_of_pos (by simpa using hsignature),
    List.dropWhile_cons_of_neg (by simp [hopening]), List.drop_one, List.tail_cons,
    List.takeWhile_append_of_pos (by simpa using hbody),
    List.takeWhile_cons_of_neg (by simp [hblock]), List.append_nil]

end Ends

section Heads

variable {h : Helpers} {name target doc : String} {many : Bool} {line : String}

theorem endsWith_bindCall (p : Parameter) : endsWith ')' (bindCall p) := by
  unfold bindCall
  dsimp only
  split <;> simp +decide [endsWith_append, toString]

theorem endsWith_builder (h : Helpers) : endsWith ')' h.builder := by
  unfold Helpers.builder
  dsimp only
  split <;> simp +decide [endsWith_append, toString]

theorem queryLines_eq (h : Helpers) : h.queryLines =
    (if h.binds = [] then ["        let _ = input;"] else []) ++
      endStatement (("        let query = " ++ h.builder) :: h.binds.map ("            " ++ ·)) := by
  unfold Helpers.queryLines
  cases h.binds <;> rfl

/-- The statement opens no block and no list of arguments. -/
theorem endsWith_of_mem_queryLines (hbinds : ∀ bind ∈ h.binds, endsWith ')' bind)
    (hline : line ∈ h.queryLines) : endsWith ')' line ∨ endsWith ';' line := by
  have hinput : endsWith ';' "        let _ = input;" := by decide +kernel
  have hsemicolon (front : String) : endsWith ';' (front ++ ";") := endsWith_append (by decide)
  rw [queryLines_eq, List.mem_append] at hline
  rcases hline with hline | hline
  · split at hline
    · exact .inr (List.mem_singleton.mp hline ▸ hinput)
    · cases hline
  · rcases mem_endStatement hline with hline | ⟨front, rfl⟩
    · rcases List.mem_cons.mp hline with rfl | hline
      · exact .inl (endsWith_append_of_endsWith (endsWith_builder h))
      · obtain ⟨bind, hbind, rfl⟩ := List.mem_map.mp hline
        exact .inl (endsWith_append_of_endsWith (hbinds bind hbind))
    · exact .inr (hsemicolon front)

theorem not_endsWith_of_mem_queryLines {c : Char} (hbinds : ∀ bind ∈ h.binds, endsWith ')' bind)
    (hclose : ')' ≠ c) (hsemicolon : ';' ≠ c) (hline : line ∈ h.queryLines) :
    endsWith c line = false :=
  (endsWith_of_mem_queryLines hbinds hline).elim (endsWith_eq_false · hclose)
    (endsWith_eq_false · hsemicolon)

/-- A list of arguments is opened at the end of a line by the head of a helper only, so a unit has no
other line that looks like one. -/
theorem filter_signatureLines (h : Helpers) (keyword name : String) (many : Bool) :
    (h.signatureLines keyword name many).filter (endsWith '(') =
      ["    pub " ++ keyword ++ " " ++ name ++ "("] := by
  simp +decide [Helpers.signatureLines, endsWith_append, toString]

theorem filter_blockingLines (hdoc : doc ≠ "") (hend : endsWith '(' doc = false) :
    (h.blockingLines name target doc many).filter (endsWith '(') =
      ["    pub " ++ "fn" ++ " " ++ name ++ "("] := by
  unfold Helpers.blockingLines
  dsimp only
  rw [List.filter_append, List.filter_append, filter_signatureLines]
  simp +decide [endsWith_append, toString, hdoc, hend]

theorem filter_fieldLines_eq_nil (p : Parameter) : (fieldLines p).filter (endsWith '(') = [] := by
  simp +decide [fieldLines, endsWith_append, toString]

theorem filter_inputLines (queryName : String) (params : List Parameter) :
    (inputLines queryName params).filter (endsWith '(') = [] := by
  unfold inputLines
  dsimp only
  split
  · simp +decide [endsWith_append, toString]
  · simp +decide [endsWith_append, toString, List.filter_flatMap, filter_fieldLines_eq_nil]

theorem filter_headLines (metadata : QueryMetadata) :
    (headLines metadata).filter (endsWith '(') = [] := by
  unfold headLines bannerLine docLine
  rw [List.filter_append, List.filter_append, filter_inputLines]
  simp +decide [endsWith_append, toString]

theorem filter_queryLines (hbinds : ∀ bind ∈ h.binds, endsWith ')' bind) :
    h.queryLines.filter (endsWith '(') = [] := by
  simpa using fun line hline => not_endsWith_of_mem_queryLines hbinds (by decide) (by decide) hline

theorem filter_allRowsLines (hbinds : ∀ bind ∈ h.binds, endsWith ')' bind) :
    h.allRowsLines.filter (endsWith '(') = [asyncHead "query_async"] := by
  unfold Helpers.allRowsLines
  rw [List.filter_append, List.filter_append, List.filter_append, filter_queryLines hbinds,
    filter_signatureLines]
  simp +decide [endsWith_append, toString]

theorem asyncHead_not_mem {lines heads : List String} (hheads : lines.filter (endsWith '(') = heads)
    (hname : asyncHead name ∉ heads) : asyncHead name ∉ lines := fun hmem =>
  hname (hheads ▸ List.mem_filter.mpr ⟨hmem, endsWith_asyncHead name⟩)

/-- The lines of a unit before its first asynchronous helper. -/
def linesBefore (metadata : QueryMetadata) (settings : CodegenSettings) : List String :=
  let bound := (Query.bindPlaceholders metadata.cleanedSql metadata.parameters settings.dialect).1
  headLines metadata ++
  [constantLine "SQL" metadata.cleanedSql,
   "",
   boundDocLine settings.dialect,
   constantLine "BOUND_SQL" bound] ++
  (helpers metadata settings).blockingLines "query" "query_async"
    "Executes the query and returns all rows." true ++
  (helpers metadata settings).blockingLines "query_single" "query_single_async"
    "Executes the query and returns exactly one row." false

theorem filter_linesBefore (metadata : QueryMetadata) (settings : CodegenSettings) :
    (linesBefore metadata settings).filter (endsWith '(') =
      ["    pub fn query(", "    pub fn query_single("] := by
  unfold linesBefore
  dsimp only
  rw [List.filter_append, List.filter_append, List.filter_append, filter_headLines,
    filter_blockingLines (by decide) (by decide +kernel),
    filter_blockingLines (by decide) (by decide +kernel)]
  unfold constantLine boundDocLine
  simp +decide [endsWith_append, toString]

theorem preamble_signatureLines {before after : List String} {block : String}
    (hbinds : ∀ bind ∈ h.binds, endsWith ')' bind) (hbefore : asyncHead name ∉ before)
    (hblock : endsWith '\x7b' block) :
    preamble name (before ++ (h.signatureLines "async fn" name many ++
      (h.queryLines ++ block :: after))) = h.queryLines := by
  set arguments := [s!"        conn: &mut {h.settings.dialect.connection},",
   s!"        input: &{h.input},",
   s!"        transaction: Option<&mut sqlx::Transaction<'_, {h.settings.dialect.database}>>,",
   "        timeout: Option<std::time::Duration>,"] with harguments
  have hsignature : h.signatureLines "async fn" name many =
      asyncHead name :: (arguments ++ [s!"    ) -> {h.returnType many} \x7b"]) := by
    unfold Helpers.signatureLines asyncHead
    simp [toString, harguments]
  have hmiddle : ∀ line ∈ arguments, endsWith '\x7b' line = false := by
    simp +decide [harguments, endsWith_append, toString]
  have hopening : endsWith '\x7b' s!"    ) -> {h.returnType many} \x7b" :=
    endsWith_append (by decide)
  rw [hsignature, List.cons_append, List.append_assoc]
  exact preamble_append hbefore hmiddle hopening
    (fun line => not_endsWith_of_mem_queryLines hbinds (by decide) (by decide)) hblock

end Heads

section Binds

variable {params : List Parameter} {order : List Nat}

theorem bind_eq_display_iff (token : String) :
    (SqlType.resolve token).bind = .display ↔ (SqlType.resolve token).field = "char" := by
  have htable : ∀ row ∈ SqlType.table, row.bind = .display ↔ row.field = "char" := by decide
  have hrow : SqlType.resolve token ∈ SqlType.table := by
    unfold SqlType.resolve
    cases hfind : SqlType.table.find? fun row => row.token.toList = token.toList.map Char.toLower with
    | none => exact List.mem_cons_self
    | some row => exact List.mem_of_find?_eq_some hfind
  exact htable _ hrow

theorem bindCall_eq (p : Parameter) : bindCall p =
    if (SqlType.resolve p.sqlType).field = "char" then
      s!".bind(input.{fieldIdent p.name}.to_string())"
    else s!".bind(&input.{fieldIdent p.name})" := by
  unfold bindCall
  dsimp only
  rcases hbind : (SqlType.resolve p.sqlType).bind with _ | _
  · rw [if_neg fun hfield => by simp [(bind_eq_display_iff p.sqlType).mpr hfield] at hbind]
  · rw [if_pos ((bind_eq_display_iff p.sqlType).mp hbind)]

/-- No call is left out where the order names parameters only. -/
theorem map_some_bindCalls (horder : ∀ i ∈ order, i < params.length) :
    (bindCalls params order).map some = order.map fun i => (params[i]?).map bindCall := by
  induction order with
  | nil => rfl
  | cons i order ih =>
    obtain ⟨hi, horder⟩ := List.forall_mem_cons.mp horder
    have hcalls : bindCalls params (i :: order) = bindCall params[i] :: bindCalls params order := by
      rw [bindCalls, List.filterMap_cons_some (List.getElem?_eq_getElem hi)]
      rfl
    rw [hcalls, List.map_cons, List.map_cons, ih horder, List.getElem?_eq_getElem hi]
    rfl

theorem bindsInOrder_bindCalls (queryName : String) (horder : ∀ i ∈ order, i < params.length) :
    BindsInOrder params (fieldDeclarations queryName params) order (bindCalls params order) := by
  have hcalls := map_some_bindCalls horder
  constructor
  · simpa using congrArg List.length hcalls
  · intro k i hk
    obtain ⟨p, hp⟩ : ∃ p, params[i]? = some p :=
      ⟨_, List.getElem?_eq_getElem (horder i (List.mem_of_getElem? hk))⟩
    refine ⟨p, (SqlType.resolve p.sqlType).field, hp, ?_, ?_⟩
    · rw [fieldDeclarations_eq, List.getElem?_map, hp]
      rfl
    · have hcall := congrArg (·[k]?) hcalls
      simpa [hk, hp, bindCall_eq] using hcall

end Binds

/-- Every line of a statement but the first stands behind a line feed. -/
theorem ofLines_endStatement (first : String) (rest : List String) :
    ofLines (endStatement (first :: rest)) =
      first ++ String.join (rest.map ("\n" ++ ·)) ++ ";\n" := by
  induction rest generalizing first with
  | nil => simp [endStatement, ofLines, String.append_assoc]
  | cons next rest ih =>
    have hcons : ofLines (endStatement (first :: next :: rest)) =
        first ++ "\n" ++ ofLines (endStatement (next :: rest)) := by
      simp [endStatement, ofLines]
    rw [hcons, ih, List.map_cons, String.join_cons]
    simp only [String.append_assoc]

theorem ofLines_queryLines (h : Helpers) : ofLines h.queryLines =
    (if h.binds = [] then "        let _ = input;\n" else "") ++ "        let query = " ++ h.builder ++
      String.join (h.binds.map ("\n            " ++ ·)) ++ ";\n" := by
  have happend (lines after : List String) :
      ofLines (lines ++ after) = ofLines lines ++ ofLines after := by
    simp [ofLines]
  have hcalls : (h.binds.map ("            " ++ ·)).map ("\n" ++ ·) =
      h.binds.map ("\n            " ++ ·) := by
    rw [List.map_map]
    refine List.map_congr_left fun call _ => ?_
    rw [Function.comp_apply, ← String.append_assoc]
    rfl
  have hinput : ofLines (if h.binds = [] then ["        let _ = input;"] else []) =
      if h.binds = [] then "        let _ = input;\n" else "" := by
    split <;> simp [ofLines]
  rw [queryLines_eq, happend, ofLines_endStatement, hcalls, hinput]
  simp only [String.append_assoc]

section Unit

variable (metadata : QueryMetadata) (settings : CodegenSettings)

theorem endsWith_of_mem_binds :
    ∀ bind ∈ (helpers metadata settings).binds, endsWith ')' bind := by
  intro bind hbind
  obtain ⟨p, -, rfl⟩ := List.mem_map.mp hbind
  exact endsWith_bindCall p

theorem preamble_query_async :
    preamble "query_async" (unitLines metadata settings) =
      (helpers metadata settings).queryLines := by
  have hbefore : asyncHead "query_async" ∉ linesBefore metadata settings ++
      ["", "    /// Executes the query asynchronously and returns all rows."] := by
    refine asyncHead_not_mem (List.filter_append _ _) ?_
    rw [filter_linesBefore]
    decide +kernel
  have hlines : ∃ after, unitLines metadata settings = linesBefore metadata settings ++
      ["", "    /// Executes the query asynchronously and returns all rows."] ++
      ((helpers metadata settings).signatureLines "async fn" "query_async" true ++
        ((helpers metadata settings).queryLines ++
          s!"        {settings.runtimeCrate}::runtime::with_timeout(timeout, async move \x7b" ::
            after)) := by
    simp only [unitLines, Helpers.lines, Helpers.allRowsLines, linesBefore, List.append_assoc,
      List.cons_append, List.nil_append]
    exact ⟨_, rfl⟩
  obtain ⟨after, hlines⟩ := hlines
  rw [hlines]
  exact preamble_signatureLines (endsWith_of_mem_binds metadata settings) hbefore
    (endsWith_append (by decide))

theorem preamble_query_single_async :
    preamble "query_single_async" (unitLines metadata settings) =
      (helpers metadata settings).queryLines := by
  have hbinds := endsWith_of_mem_binds metadata settings
  set doc := ["", "    /// Executes the query asynchronously and returns exactly one row.",
   "    ///",
   "    /// Fails with `RowNotFound` for no rows and a `TooManyRows` decode error for more than one."
  ] with hdoc
  have hbefore : asyncHead "query_single_async" ∉ linesBefore metadata settings ++
      (helpers metadata settings).allRowsLines ++ doc := by
    refine asyncHead_not_mem (List.filter_append _ _) ?_
    -- The helper for all rows stands in front as well, with a head of its own.
    rw [List.filter_append, filter_linesBefore, filter_allRowsLines hbinds]
    decide +kernel
  have hlines : ∃ after, unitLines metadata settings = linesBefore metadata settings ++
      (helpers metadata settings).allRowsLines ++ doc ++
      ((helpers metadata settings).signatureLines "async fn" "query_single_async" false ++
        ((helpers metadata settings).queryLines ++
          s!"        {settings.runtimeCrate}::runtime::with_timeout(timeout, async move \x7b" ::
            after)) := by
    simp only [unitLines, Helpers.lines, Helpers.singleRowLines, linesBefore, List.append_assoc,
      List.cons_append, List.nil_append, hdoc]
    exact ⟨_, rfl⟩
  obtain ⟨after, hlines⟩ := hlines
  rw [hlines]
  exact preamble_signatureLines hbinds hbefore (endsWith_append (by decide))

end Unit

/-- Both asynchronous helpers make the query with one statement. It binds exactly the parameters that
the binding names, in its order: each by the field that the input type declares for it, and as its
text where that field is a character. -/
theorem preamble_bindsInOrder (metadata : QueryMetadata) (settings : CodegenSettings) :
    (GeneratedUnit.ofMetadata metadata settings).source = ofLines (unitLines metadata settings) ∧
    inputLines metadata.queryName metadata.parameters <:+: unitLines metadata settings ∧
    ∃ (order : List Nat) (calls : List String),
      order = (Query.bindPlaceholders metadata.cleanedSql metadata.parameters settings.dialect).2 ∧
      BindsInOrder metadata.parameters (fieldDeclarations metadata.queryName metadata.parameters)
        order calls ∧
      ∀ name ∈ ["query_async", "query_single_async"],
        ofLines (preamble name (unitLines metadata settings)) =
          (if order = [] then "        let _ = input;\n" else "") ++
            "        let query = " ++ (helpers metadata settings).builder ++
            String.join (calls.map ("\n            " ++ ·)) ++ ";\n" := by
  have hinput : inputLines metadata.queryName metadata.parameters <:+: headLines metadata :=
    (List.suffix_append _ _).isInfix.trans (List.prefix_append _ _).isInfix
  refine ⟨by simp only [GeneratedUnit.ofMetadata], ?_, ?_⟩
  · rw [unitLines_eq]
    exact hinput.trans (List.prefix_append _ _).isInfix
  set order := (Query.bindPlaceholders metadata.cleanedSql metadata.parameters settings.dialect).2
  have hbinds : BindsInOrder metadata.parameters
      (fieldDeclarations metadata.queryName metadata.parameters) order
      (helpers metadata settings).binds := by
    refine bindsInOrder_bindCalls metadata.queryName fun i hi => ?_
    exact Query.occurrences_lt (Query.mem_bindOrder_iff.mp hi)
  refine ⟨order, (helpers metadata settings).binds, rfl, hbinds, ?_⟩
  have hempty : order = [] ↔ (helpers metadata settings).binds = [] := by
    rw [← List.length_eq_zero_iff, ← hbinds.length_eq, List.length_eq_zero_iff]
  intro name hname
  simp only [hempty, ← ofLines_queryLines]
  rcases List.mem_cons.mp hname with rfl | hname
  · rw [preamble_query_async]
  · rw [List.mem_singleton.mp hname, preamble_query_single_async]

end TypedQuery.Code
