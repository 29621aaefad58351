import ContractBindings.Report
import ContractBindings.Proofs.Json.Printed
import ContractBindings.Proofs.Text.Ink

/-!
# Reports with and without colours

Whatever a report shows of an artifact stands in its spans, between words and marks of its own. If
none of the texts that it shows holds the character that begins a code, colours can be taken away
again. The interface as JSON is one section more, before the others.

1. `clean_spans`: the spans of a report are clean where the texts that it shows are.
2. `render_includingAbi`: a report with the interface is the report without it after one section.
-/

namespace ContractBindings

open Text (NoCode Span plain)

/-- All spans are clean. -/
def AllClean (spans : List Span) : Prop := ∀ s ∈ spans, s.Clean

variable {s t : String} {xs ys : List Span} {ink : Text.Ink}

theorem noCode_append (hs : NoCode s) (ht : NoCode t) : NoCode (s ++ t) := by
  rw [NoCode, String.toList_append, List.mem_append]
  exact not_or.2 ⟨hs, ht⟩

theorem noCode_of_printed (h : AllPrinted s.toList) : NoCode s :=
  fun hmem => not_printed_escape (h _ hmem)

theorem noCode_nat (n : Nat) : NoCode (toString n) := by
  refine noCode_of_printed ?_
  rw [show toString n = String.ofList (Nat.toDigits 10 n) from rfl, String.toList_ofList]
  exact printed_toDigits

theorem noCode_int (n : Int) : NoCode (toString n) := by
  cases n with
  | ofNat n => exact noCode_nat n
  | negSucc n =>
    rw [show toString (Int.negSucc n) = "-" ++ toString (n + 1) from rfl]
    exact noCode_append (by decide) (noCode_nat _)

theorem clean_span (hs : NoCode s) (hink : ink ≠ .italic) : Text.Span.Clean ⟨ink, s⟩ :=
  ⟨hs, hink⟩

theorem clean_plain (hs : NoCode s) : (plain s).Clean :=
  ⟨hs, by simp [plain]⟩

theorem AllClean.nil : AllClean [] := by simp [AllClean]

theorem AllClean.cons {x : Span} (hx : x.Clean) (hxs : AllClean xs) : AllClean (x :: xs) :=
  List.forall_mem_cons.2 ⟨hx, hxs⟩

theorem AllClean.append (hxs : AllClean xs) (hys : AllClean ys) : AllClean (xs ++ ys) :=
  List.forall_mem_append.2 ⟨hxs, hys⟩

theorem allClean_flatten {parts : List (List Span)} (h : ∀ part ∈ parts, AllClean part) :
    AllClean parts.flatten := by
  intro s hs
  obtain ⟨part, hpart, hs⟩ := List.mem_flatten.1 hs
  exact h part hpart s hs

namespace Report

/-! ## The texts that a report shows -/

/-- What a report shows of a parameter. -/
def shownOfParam (p : Abi.Param) : List String := [p.type, p.name]

/-- What a report shows of a function. -/
def shownOfFunction (f : Abi.Function) : List String :=
  f.name :: f.inputs.flatMap shownOfParam ++ f.outputs.map (·.type)

/-- What a report shows of an event. -/
def shownOfEvent (e : Abi.Event) : List String := e.name :: e.inputs.flatMap shownOfParam

/-- The texts of an artifact that a report shows, but for its interface as JSON. -/
def shown (r : Report) : List String :=
  r.interface.functions.flatMap shownOfFunction ++ r.interface.events.flatMap shownOfEvent ++
    (r.interface.constructor.toList.flatMap fun c => c.inputs.flatMap shownOfParam) ++
    [r.artifact.contractName, r.artifact.sourceName] ++ r.artifact.compilerVersion.toList

/-! ## Clean spans -/

theorem mem_intersperse {α : Type} {sep x : α} {xs : List α} (h : x ∈ xs.intersperse sep) :
    x = sep ∨ x ∈ xs := by
  induction xs with
  | nil => simp at h
  | cons y ys ih =>
    cases ys with
    | nil => exact .inr (by simpa using h)
    | cons z zs =>
      rw [List.intersperse_cons_cons, List.mem_cons, List.mem_cons] at h
      rcases h with rfl | rfl | h
      · exact .inr List.mem_cons_self
      · exact .inl rfl
      · exact (ih h).imp_right (List.mem_cons_of_mem y)

theorem clean_separated {between : List Span} {parts : List (List Span)}
    (hbetween : AllClean between) (hparts : ∀ part ∈ parts, AllClean part) :
    AllClean (separated between parts) := by
  refine allClean_flatten fun part hpart => ?_
  rcases mem_intersperse hpart with rfl | hpart
  · exact hbetween
  · exact hparts part hpart

theorem clean_titled {title : String} (htitle : NoCode title) (hxs : AllClean xs) :
    AllClean (titled title xs) := by
  have hline (n : Nat) : NoCode (String.ofList (List.replicate n '=')) := by
    refine noCode_of_printed ?_
    rw [String.toList_ofList]
    exact printed_replicate (by decide)
  have hheading : NoCode (title ++ ":") := noCode_append htitle (by decide)
  refine AllClean.append ?_ hxs
  exact .cons (clean_span hheading (by decide)) (.cons (clean_plain (by decide))
    (.cons (clean_span (hline _) (by decide)) (.cons (clean_plain (by decide)) .nil)))

theorem clean_orNone (hxs : AllClean xs) : AllClean (orNone xs) := by
  unfold orNone
  split
  · exact .cons (clean_plain (by decide)) .nil
  · exact hxs

theorem clean_param {p : Abi.Param} (h : ∀ t ∈ shownOfParam p, NoCode t) : AllClean (param p) := by
  unfold param
  refine .cons (clean_span (h _ (by simp [shownOfParam])) (by decide)) ?_
  split
  · exact .nil
  · have hname : NoCode p.name := h _ (by simp [shownOfParam])
    exact .cons (clean_plain (noCode_append (by decide) hname)) .nil

theorem clean_params {ps : List Abi.Param} (h : ∀ t ∈ ps.flatMap shownOfParam, NoCode t) :
    AllClean (params ps) := by
  refine clean_separated (.cons (clean_plain (by decide)) .nil) (List.forall_mem_map.2 ?_)
  exact fun p hp => clean_param fun t ht => h t (List.mem_flatMap.2 ⟨p, hp, ht⟩)

theorem clean_results {ps : List Abi.Param} (h : ∀ t ∈ ps.map (·.type), NoCode t) :
    AllClean (results ps) := by
  unfold results
  split
  · exact .cons (clean_plain (by decide)) .nil
  · refine clean_separated (.cons (clean_plain (by decide)) .nil) (List.forall_mem_map.2 ?_)
    exact fun p hp => .cons (clean_span (h _ (List.mem_map_of_mem hp)) (by decide)) .nil

theorem clean_numbered {index : Nat} {name : String} {inputs : List Abi.Param}
    (hname : NoCode name) (hinputs : ∀ t ∈ inputs.flatMap shownOfParam, NoCode t) :
    AllClean (numbered index name inputs) := by
  have hnumber : NoCode (toString (index + 1) ++ ".") := noCode_append (noCode_nat _) (by decide)
  refine .append (.append ?_ (clean_params hinputs)) (.cons (clean_plain (by decide)) .nil)
  exact .cons (clean_span hnumber (by decide)) (.cons (clean_plain (by decide))
    (.cons (clean_span hname (by decide)) (.cons (clean_plain (by decide)) .nil)))

theorem clean_functionLine {index : Nat} {f : Abi.Function}
    (h : ∀ t ∈ shownOfFunction f, NoCode t) : AllClean (functionLine index f) := by
  have hname : NoCode f.name := h _ (by simp [shownOfFunction])
  have hinputs (t : String) (ht : t ∈ f.inputs.flatMap shownOfParam) : NoCode t :=
    h t (List.mem_append_left _ (List.mem_cons_of_mem _ ht))
  have houtputs (t : String) (ht : t ∈ f.outputs.map (·.type)) : NoCode t :=
    h t (List.mem_append_right _ ht)
  have hmutability : NoCode ("(" ++ f.mutability.name ++ ")") := by
    cases f.mutability <;> decide
  refine .append (.append (.append (clean_numbered hname hinputs) ?_) (clean_results houtputs)) ?_
  · exact .cons (clean_plain (by decide)) .nil
  · exact .cons (clean_plain (by decide)) (.cons (clean_span hmutability (by decide))
      (.cons (clean_plain (by decide)) .nil))

theorem clean_eventLine {index : Nat} {e : Abi.Event} (h : ∀ t ∈ shownOfEvent e, NoCode t) :
    AllClean (eventLine index e) := by
  have hname : NoCode e.name := h _ List.mem_cons_self
  refine .append (clean_numbered hname fun t ht => ?_) (.cons (clean_plain (by decide)) .nil)
  exact h t (List.mem_cons_of_mem _ ht)

theorem clean_constructorLine {c : Abi.Constructor}
    (h : ∀ t ∈ c.inputs.flatMap shownOfParam, NoCode t) : AllClean (constructorLine c) := by
  refine .append (.append ?_ (clean_params h)) (.cons (clean_plain (by decide)) .nil)
  exact .cons (clean_span (by decide) (by decide)) (.cons (clean_plain (by decide)) .nil)

theorem clean_detail {label value : String} (hlabel : NoCode label) (hvalue : NoCode value) :
    AllClean (detail label value) :=
  .cons (clean_span (noCode_append hlabel (by decide)) (by decide))
    (.cons (clean_plain (noCode_append (noCode_append (by decide) hvalue) (by decide))) .nil)

theorem clean_details {a : Artifact} (hname : NoCode a.contractName)
    (hsource : NoCode a.sourceName) (hversion : ∀ v, a.compilerVersion = some v → NoCode v) :
    AllClean (details a) := by
  have hcompiler : NoCode (a.compilerVersion.getD "Unknown") := by
    cases hcase : a.compilerVersion with
    | none => decide
    | some v => exact hversion v hcase
  have hsize (n : Int) : NoCode (toString n ++ " bytes") := noCode_append (noCode_int n) (by decide)
  refine .append (.append (.append (.append ?_ ?_) ?_) ?_) ?_
  · exact clean_detail (by decide) hname
  · exact clean_detail (by decide) hsource
  · exact clean_detail (by decide) hcompiler
  · exact clean_detail (by decide) (hsize _)
  · exact clean_detail (by decide) (hsize _)

theorem clean_abiSection (r : Report) : AllClean r.abiSection := by
  have hpretty : NoCode r.artifact.abi.pretty := noCode_of_printed (Json.printed_pretty _)
  exact clean_titled (by decide) (.cons (clean_plain (noCode_append hpretty (by decide))) .nil)

theorem clean_functions {fs : List Abi.Function}
    (h : ∀ t ∈ fs.flatMap shownOfFunction, NoCode t) :
    AllClean (fs.mapIdx functionLine).flatten := by
  refine allClean_flatten fun part hpart => ?_
  obtain ⟨index, hindex, rfl⟩ := List.mem_mapIdx.1 hpart
  exact clean_functionLine fun t ht => h t (List.mem_flatMap.2 ⟨_, List.getElem_mem _, ht⟩)

theorem clean_events {es : List Abi.Event} (h : ∀ t ∈ es.flatMap shownOfEvent, NoCode t) :
    AllClean (es.mapIdx eventLine).flatten := by
  refine allClean_flatten fun part hpart => ?_
  obtain ⟨index, hindex, rfl⟩ := List.mem_mapIdx.1 hpart
  exact clean_eventLine fun t ht => h t (List.mem_flatMap.2 ⟨_, List.getElem_mem _, ht⟩)

theorem clean_summary {r : Report} (h : ∀ t ∈ r.shown, NoCode t) :
    ∀ part ∈ r.summary, AllClean part := by
  unfold shown at h
  simp only [List.forall_mem_append, List.forall_mem_cons] at h
  obtain ⟨⟨⟨⟨hfunctions, hevents⟩, hconstructor⟩, hname, hsource, -⟩, hversion⟩ := h
  unfold summary
  simp only [List.forall_mem_append, List.forall_mem_cons]
  refine ⟨⟨⟨?_, ?_, by simp⟩, ?_⟩, ?_, by simp⟩
  · exact clean_titled (by decide) (clean_orNone (clean_functions hfunctions))
  · exact clean_titled (by decide) (clean_orNone (clean_events hevents))
  · intro part hpart
    rw [Option.mem_toList, Option.map_eq_some_iff] at hpart
    obtain ⟨c, hc, rfl⟩ := hpart
    rw [hc] at hconstructor
    exact clean_titled (by decide) (clean_constructorLine (by simpa using hconstructor))
  · refine clean_titled (by decide) (clean_details hname hsource fun v hv => ?_)
    exact hversion v (by simp [hv])

/-- The spans of a report are clean if the texts that it shows are. -/
theorem clean_spans {r : Report} (h : ∀ t ∈ r.shown, NoCode t) : AllClean r.spans := by
  refine clean_separated (.cons (clean_plain (by decide)) .nil) ?_
  split
  · exact List.forall_mem_cons.2 ⟨clean_abiSection r, clean_summary h⟩
  · exact clean_summary h

/-! ## The interface as a section -/

theorem separated_cons (between part : List Span) {parts : List (List Span)} (h : parts ≠ []) :
    separated between (part :: parts) = part ++ between ++ separated between parts := by
  obtain ⟨next, others, rfl⟩ := List.exists_cons_of_ne_nil h
  simp [separated, List.intersperse_cons_cons]

/-- The section about the interface, with the empty line after it. -/
def abiBlock (coloured : Bool) (artifact : Artifact) : String :=
  Text.renderSpans coloured [⟨.bold, "CONTRACT ABI:"⟩] ++ "\n" ++
    Text.renderSpans coloured [⟨.dim, "============="⟩] ++ "\n" ++ artifact.abi.pretty ++ "\n\n"

theorem render_abiSection (coloured : Bool) (r : Report) :
    Text.renderSpans coloured (r.abiSection ++ [plain "\n"]) = abiBlock coloured r.artifact := by
  have hheading : "CONTRACT ABI" ++ ":" = "CONTRACT ABI:" := by decide
  have hline : String.ofList (List.replicate "CONTRACT ABI:".length '=') = "=============" := by
    decide
  have hbreaks : "\n\n" = "\n" ++ "\n" := by decide
  have hspans (x y : Span) (text : String) :
      [x, plain "\n", y, plain "\n"] ++ [plain (text ++ "\n")] ++ [plain "\n"] =
        [x] ++ [plain "\n"] ++ [y] ++ [plain "\n"] ++ [plain (text ++ "\n")] ++ [plain "\n"] :=
    rfl
  rw [abiSection, titled, hheading, hline, hspans, abiBlock, hbreaks]
  simp only [Text.renderSpans_append, Text.renderSpans_plain, String.append_assoc]

/-- A report with the interface is the report without it after one section more. -/
theorem render_includingAbi (coloured : Bool) (r : Report) :
    ({ r with includesAbi := true } : Report).render coloured =
      abiBlock coloured r.artifact ++
        ({ r with includesAbi := false } : Report).render coloured := by
  have hsummary : r.summary ≠ [] := by simp [summary]
  rw [render, render, ← render_abiSection coloured r, ← Text.renderSpans_append]
  exact congrArg _ (separated_cons [plain "\n"] r.abiSection hsummary)

end Report

end ContractBindings
