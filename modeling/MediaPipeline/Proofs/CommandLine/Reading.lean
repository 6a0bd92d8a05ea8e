import MediaPipeline.Proofs.CommandLine.Clauses
import MediaPipeline.Proofs.CommandLine.Words

/-!
Reading a filter graph back. Clauses are told apart at semicolons; a clause is read as labels in
brackets, one space, a body, one space, and labels in brackets again; the body of a filter is read
as a name and parameters. The reader undoes the writer wherever the texts of the nodes are free of
the punctuation around them.
-/

namespace MediaPipeline

open CommandLine

/-! ### The reader -/

/-- What stands before the first occurrence of a character, and what after it. -/
def cut (sep : Char) : List Char → Option (List Char × List Char)
  | [] => none
  | c :: cs =>
    if c = sep then some ([], cs) else (cut sep cs).map fun parts => (c :: parts.1, parts.2)

theorem length_of_cut {sep : Char} {cs before after : List Char}
    (h : cut sep cs = some (before, after)) : after.length < cs.length := by
  induction cs generalizing before with
  | nil => simp [cut] at h
  | cons c cs ih =>
      simp only [cut] at h
      split at h
      · obtain ⟨-, rfl⟩ : [] = before ∧ cs = after := by simpa using h
        simp
      · obtain ⟨⟨front, back⟩, hparts, heq⟩ := Option.map_eq_some_iff.mp h
        obtain ⟨-, rfl⟩ : c :: front = before ∧ back = after := by simpa using heq
        have hlt := ih hparts
        simp only [List.length_cons]
        omega

/-- Labels in brackets, and what follows the last of them. -/
def readLabels : List Char → Option (List Label × List Char)
  | '[' :: cs =>
    match h : cut ']' cs with
    | none => none
    | some (text, rest) =>
      have := length_of_cut h
      (readLabels rest).map fun (labels, rest) => (⟨String.ofList text⟩ :: labels, rest)
  | cs => some ([], cs)
termination_by cs => cs.length

def readClause (text : List Char) : Option Clause := do
  let (inputs, rest) ← readLabels text
  match rest with
  | ' ' :: rest =>
    let body := rest.takeWhile (· ≠ '[')
    let (outputs, rest) ← readLabels (rest.dropWhile (· ≠ '['))
    if body.getLast? = some ' ' ∧ rest = [] then
      some ⟨inputs, String.ofList body.dropLast, outputs⟩
    else none
  | _ => none

/-- The clauses of a filter graph. -/
def readGraph (graph : String) : Option (List Clause) :=
  (graph.toList.splitOn ';').mapM readClause

def readParameter (text : List Char) : Option (String × String) := do
  let (key, value) ← cut '=' text
  pure (String.ofList key, String.ofList value)

/-- The name and the parameters of a filter. -/
def readBody (body : String) : Option (String × List (String × String)) := do
  let (name, rest) ← cut '=' body.toList
  let params ← if rest = [] then some [] else (rest.splitOn ':').mapM readParameter
  pure (String.ofList name, params)

/-- The text between the first two double quotes of a line. -/
def quotation (line : String) : Option String := do
  let (_, rest) ← cut '"' line.toList
  let (text, _) ← cut '"' rest
  pure (String.ofList text)

/-! ### Undoing the writer -/

theorem cut_append {sep : Char} {before : List Char} (after : List Char) (h : sep ∉ before) :
    cut sep (before ++ sep :: after) = some (before, after) := by
  induction before with
  | nil => simp [cut]
  | cons c cs ih =>
      simp only [List.mem_cons, not_or] at h
      simp [cut, Ne.symm h.1, ih h.2]

theorem mapM_map_of_inverse {α β : Type} {f : α → β} {g : β → Option α} {xs : List α}
    (h : ∀ x ∈ xs, g (f x) = some x) : (xs.map f).mapM g = some xs := by
  induction xs with
  | nil => rfl
  | cons x xs ih =>
      have hrest := ih (fun y hy => h y (by simp [hy]))
      simp [h x (by simp), hrest]

theorem readLabels_bracketAll {labels : List Label} (rest : List Char)
    (hlabels : ∀ l ∈ labels, ']' ∉ l.text.toList) (hrest : rest.head? ≠ some '[') :
    readLabels ((Label.bracketAll labels).toList ++ rest) = some (labels, rest) := by
  induction labels with
  | nil =>
      have hstop : ∀ cs, rest ≠ '[' :: cs := by
        rintro cs rfl
        simp at hrest
      rw [show (Label.bracketAll []).toList ++ rest = rest by simp [Label.bracketAll]]
      rw [readLabels.eq_2 rest hstop]
  | cons l labels ih =>
      have htext : (Label.bracketAll (l :: labels)).toList ++ rest =
          '[' :: (l.text.toList ++ ']' :: ((Label.bracketAll labels).toList ++ rest)) := by
        simp [Label.bracketAll, Label.bracketed]
      have hcut := cut_append ((Label.bracketAll labels).toList ++ rest) (hlabels l (by simp))
      have hlater := ih (fun m hm => hlabels m (by simp [hm]))
      rw [htext, readLabels]
      split
      · next h => simp [hcut] at h
      · next text after h =>
          obtain ⟨rfl, rfl⟩ : l.text.toList = text ∧ _ = after := by simpa [hcut] using h
          simp [hlater]

/-- In front of labels in brackets, a body without an opening bracket ends at its last space. -/
theorem takeWhile_body {body : List Char} (labels : List Label) (hbody : '[' ∉ body) :
    (body ++ ' ' :: (Label.bracketAll labels).toList).takeWhile (· ≠ '[') = body ++ [' '] ∧
      (body ++ ' ' :: (Label.bracketAll labels).toList).dropWhile (· ≠ '[') =
        (Label.bracketAll labels).toList := by
  have hinside : ∀ c ∈ body ++ [' '], (c ≠ '[' : Bool) = true := by
    intro c hc
    rcases List.mem_append.mp hc with hc | hc
    · simpa using fun h : c = '[' => hbody (h ▸ hc)
    · simp_all
  rw [show body ++ ' ' :: (Label.bracketAll labels).toList =
      (body ++ [' ']) ++ (Label.bracketAll labels).toList by simp]
  rw [List.takeWhile_append_of_pos hinside, List.dropWhile_append_of_pos hinside]
  cases labels <;> simp [Label.bracketAll, Label.bracketed]

theorem readClause_text {k : Clause} (hlabels : ∀ l ∈ k.inputs ++ k.outputs, ']' ∉ l.text.toList)
    (hbody : '[' ∉ k.body.toList) : readClause k.text.toList = some k := by
  obtain ⟨htake, hdrop⟩ := takeWhile_body k.outputs hbody
  have hinputs := readLabels_bracketAll
    (' ' :: (k.body.toList ++ ' ' :: (Label.bracketAll k.outputs).toList))
    (fun l hl => hlabels l (List.mem_append_left _ hl)) (by simp)
  have houtputs := readLabels_bracketAll []
    (fun l hl => hlabels l (List.mem_append_right _ hl)) (by simp)
  rw [List.append_nil] at houtputs
  have htext : k.text.toList = (Label.bracketAll k.inputs).toList ++
      ' ' :: (k.body.toList ++ ' ' :: (Label.bracketAll k.outputs).toList) := by
    simp [Clause.text]
  simp only [readClause, htext, hinputs, Option.bind_eq_bind, Option.bind_some, htake, hdrop,
    houtputs]
  simp

theorem readGraph_intercalate {ks : List Clause} (hne : ks ≠ [])
    (hks : ∀ k ∈ ks, k.Without '[' ∧ k.Without ']' ∧ k.Without ';') :
    readGraph (String.intercalate ";" (ks.map Clause.text)) = some ks := by
  have hpieces : (String.intercalate ";" (ks.map Clause.text)).toList.splitOn ';' =
      ks.map fun k => k.text.toList := by
    rw [String.toList_intercalate, List.map_map]
    apply List.splitOn_intercalate
    · intro text ht
      obtain ⟨k, hk, rfl⟩ := List.mem_map.mp ht
      exact Clause.not_mem_text (hks k hk).2.2 (by simp)
    · simpa using hne
  rw [readGraph, hpieces]
  apply mapM_map_of_inverse
  intro k hk
  exact readClause_text (hks k hk).2.1.1 (hks k hk).1.2

theorem readParameter_text {p : String × String} (hkey : '=' ∉ p.1.toList) :
    readParameter (parameterText p).toList = some p := by
  have htext : (parameterText p).toList = p.1.toList ++ '=' :: p.2.toList := by
    simp [parameterText]
  simp [readParameter, htext, cut_append _ hkey]

theorem readBody_body {n : FilterNode} (hname : '=' ∉ n.filter.toList)
    (hparams : ∀ p ∈ n.params, ('=' ∉ p.1.toList ∧ ':' ∉ p.1.toList) ∧ ':' ∉ p.2.toList) :
    readBody n.body = some (n.filter, n.params) := by
  have htext : n.body.toList = n.filter.toList ++
      '=' :: (String.intercalate ":" (n.params.map parameterText)).toList := by
    simp [FilterNode.body]
  simp only [readBody, htext, cut_append _ hname, Option.bind_eq_bind, Option.bind_some]
  by_cases hnone : n.params = []
  · simp [hnone]
  · have hne : (String.intercalate ":" (n.params.map parameterText)).toList ≠ [] := by
      obtain ⟨p, ps, hps⟩ := List.exists_cons_of_ne_nil hnone
      cases ps <;> simp [hps, parameterText]
    have hpieces : (String.intercalate ":" (n.params.map parameterText)).toList.splitOn ':' =
        n.params.map fun p => (parameterText p).toList := by
      rw [String.toList_intercalate, List.map_map]
      apply List.splitOn_intercalate
      · intro text ht
        obtain ⟨p, hp, rfl⟩ := List.mem_map.mp ht
        simp [parameterText, (hparams p hp).1.2, (hparams p hp).2]
      · simpa using hnone
    have hread := mapM_map_of_inverse (f := fun p => (parameterText p).toList) (g := readParameter)
      (fun p hp => readParameter_text (hparams p hp).1.1)
    rw [if_neg hne, hpieces, hread]
    simp

/-! ### The filter graph of a node list -/

/-- The texts of a node keep clear of the punctuation around them. -/
def Node.Readable (n : Node) : Prop :=
  (∀ t ∈ n.graphTexts, '[' ∉ t.toList ∧ ']' ∉ t.toList ∧ ';' ∉ t.toList) ∧
    ∀ f, n = .filter f → '=' ∉ f.filter.toList ∧
      ∀ p ∈ f.params, ('=' ∉ p.1.toList ∧ ':' ∉ p.1.toList) ∧ ':' ∉ p.2.toList

theorem exists_clauses_eq {nodes : List Node} (hfilter : ∃ f, Node.filter f ∈ nodes) :
    ∃ ks k, clauses nodes = ks ++ [k] := by
  obtain ⟨f, hf⟩ := hfilter
  have hne : nodes.filterMap Node.filter? ≠ [] :=
    List.ne_nil_of_mem (List.mem_filterMap.mpr ⟨.filter f, hf, rfl⟩)
  exact ⟨_, _, clauses_eq (List.getLast?_eq_some_getLast hne)⟩

/-- A clause begins with a bracket or a space. -/
theorem Clause.text_eq_cons (k : Clause) : ∃ c cs, k.text.toList = c :: cs ∧ c ≠ ';' := by
  obtain ⟨inputs, body, outputs⟩ := k
  cases inputs <;> simp [Clause.text, Label.bracketAll, Label.bracketed]

/-- A clause ends with a bracket or a space. -/
theorem Clause.text_eq_concat (k : Clause) : ∃ cs c, k.text.toList = cs ++ [c] ∧ c ≠ ';' := by
  obtain ⟨inputs, body, outputs⟩ := k
  rcases List.eq_nil_or_concat outputs with rfl | ⟨ls, l, rfl⟩
  · exact ⟨(Label.bracketAll inputs).toList ++ ' ' :: body.toList, ' ',
      by simp [Clause.text, Label.bracketAll], by decide⟩
  · exact ⟨(Label.bracketAll inputs).toList ++ ' ' :: (body.toList ++
        ' ' :: ((Label.bracketAll ls).toList ++ '[' :: l.text.toList)), ']',
      by simp [Clause.text, Label.bracketAll, Label.bracketed], by decide⟩

theorem graphText_ends {nodes : List Node} (hfilter : ∃ f, Node.filter f ∈ nodes) :
    (graphText nodes).toList.head? ≠ some ';' ∧ (graphText nodes).toList.getLast? ≠ some ';' := by
  obtain ⟨ks, k, hks⟩ := exists_clauses_eq hfilter
  obtain ⟨c, cs, hcons, hc⟩ := k.text_eq_cons
  obtain ⟨ds, d, hconcat, hd⟩ := k.text_eq_concat
  rw [graphText, hks]
  cases ks with
  | nil =>
      refine ⟨?_, ?_⟩
      · simpa [hcons] using hc
      · simpa [hconcat] using hd
  | cons k' ks =>
      obtain ⟨c, cs, hcons, hc⟩ := k'.text_eq_cons
      rw [List.map_append, String.intercalate_append_of_ne_nil (by simp) (by simp)]
      refine ⟨?_, ?_⟩
      · cases ks <;> simpa [hcons] using hc
      · simp only [String.toList_append, List.map_singleton, String.intercalate_singleton, hconcat,
          ← List.append_assoc, List.getLast?_concat]
        simpa using hd

theorem quotation_append {before text after : String} (hbefore : Quotable before)
    (htext : Quotable text) :
    quotation (before ++ "\"" ++ text ++ "\"" ++ after) = some text := by
  have hline : (before ++ "\"" ++ text ++ "\"" ++ after).toList =
      before.toList ++ '"' :: (text.toList ++ '"' :: after.toList) := by
    simp
  simp [quotation, hline, cut_append _ hbefore, cut_append _ htext]

/-- Between the quotes of a command line with filters stand the texts of the clauses, with single
semicolons between them and none at the ends. It is the first quotation of the line where no text
has quotes of its own. Where the texts keep clear of the punctuation, it reads back as the clauses,
and the bodies of the filters as their names and parameters. -/
theorem compile_filterGraph (nodes : List Node) (program : String)
    (hfilter : ∃ f, Node.filter f ∈ nodes) :
    compile nodes program =
        graphPrelude nodes program ++ "\"" ++
          String.intercalate ";" ((clauses nodes).map Clause.text) ++ "\"" ++
          String.join ((nodes.filterMap Node.output?).map OutputNode.mappings) ∧
      ((graphText nodes).toList.head? ≠ some ';' ∧ (graphText nodes).toList.getLast? ≠ some ';') ∧
      (Quotable (graphPrelude nodes program) → (∀ n ∈ nodes, ∀ t ∈ n.graphTexts, Quotable t) →
        quotation (compile nodes program) = some (graphText nodes)) ∧
      ((∀ n ∈ nodes, n.Readable) →
        readGraph (graphText nodes) = some (clauses nodes) ∧
          ∀ f, Node.filter f ∈ nodes → readBody f.clause.body = some (f.filter, f.params)) := by
  have hne : nodes.filterMap Node.filter? ≠ [] := by
    obtain ⟨f, hf⟩ := hfilter
    exact List.ne_nil_of_mem (List.mem_filterMap.mpr ⟨.filter f, hf, rfl⟩)
  have hcompile := compile_of_filter program hne
  refine ⟨hcompile, graphText_ends hfilter, ?_, ?_⟩
  · intro hprelude htexts
    rw [hcompile]
    exact quotation_append hprelude (not_mem_graphText (by simp) htexts)
  · intro hread
    refine ⟨?_, ?_⟩
    · apply readGraph_intercalate
      · obtain ⟨ks, k, hks⟩ := exists_clauses_eq hfilter
        simp [hks]
      · intro k hk
        obtain ⟨n, hn, hclause⟩ := exists_node_of_mem_clauses hk
        have htexts := (hread n hn).1
        exact ⟨Node.clause_without hclause (by simp) fun t ht => (htexts t ht).1,
          Node.clause_without hclause (by simp) fun t ht => (htexts t ht).2.1,
          Node.clause_without hclause (by simp) fun t ht => (htexts t ht).2.2⟩
    · intro f hf
      obtain ⟨hname, hparams⟩ := (hread _ hf).2 f rfl
      exact readBody_body hname hparams

/-- A source without inputs, a statement without outputs, texts that are empty or have spaces. -/
theorem compile_filterGraph_overlay :
    let nodes : List Node :=
      [.filter ⟨[], "color", [("c", ""), ("s", "a=b")], ⟨""⟩⟩,
        .filter ⟨[⟨""⟩, ⟨"0:v"⟩], "overlay", [("x", "1")], ⟨"out put"⟩⟩,
        .global ⟨[⟨"0:a"⟩], [], " anull sink "⟩]
    (∃ f, Node.filter f ∈ nodes) ∧ (∀ n ∈ nodes, n.Readable) ∧
      readGraph " color=c=:s=a=b [];[0:a]  anull sink  ;[][0:v] overlay=x=1 [out put]" =
        some [⟨[], "color=c=:s=a=b", [⟨""⟩]⟩, ⟨[⟨"0:a"⟩], " anull sink ", []⟩,
          ⟨[⟨""⟩, ⟨"0:v"⟩], "overlay=x=1", [⟨"out put"⟩]⟩] ∧
      readBody "color=c=:s=a=b" = some ("color", [("c", ""), ("s", "a=b")]) := by
  intro nodes
  have hfilter : ∃ f, Node.filter f ∈ nodes := ⟨_, List.mem_cons_self⟩
  have hread : ∀ n ∈ nodes, n.Readable := by
    simp [nodes, Node.Readable, Node.graphTexts]
    rintro key value (⟨rfl, rfl⟩ | ⟨rfl, rfl⟩) <;> simp
  obtain ⟨hgraph, hbody⟩ := (compile_filterGraph nodes "ffmpeg" hfilter).2.2.2 hread
  exact ⟨hfilter, hread, hgraph, hbody _ List.mem_cons_self⟩

end MediaPipeline
