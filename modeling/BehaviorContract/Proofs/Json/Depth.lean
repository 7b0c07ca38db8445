import BehaviorContract.Json.Reader
import BehaviorContract.Proofs.Json.Scan

namespace BehaviorContract.Json

theorem depthItems_le_iff {items : List Json} {limit : Nat} :
    depthItems items ≤ limit ↔ ∀ item ∈ items, item.depth ≤ limit := by
  induction items with
  | nil => simp [depthItems]
  | cons item rest induction =>
      rw [depthItems, Nat.max_le, induction, List.forall_mem_cons]

theorem depthEntries_le_iff {entries : List (String × Json)} {limit : Nat} :
    depthEntries entries ≤ limit ↔ ∀ entry ∈ entries, entry.2.depth ≤ limit := by
  induction entries with
  | nil => simp [depthEntries]
  | cons entry rest induction =>
      rw [depthEntries, Nat.max_le, induction, List.forall_mem_cons]

theorem holds_of_foldlM {σ α : Type} {step : σ → α → Option σ} (Holds : σ → Prop)
    {items : List α} (keeps : ∀ item ∈ items, ∀ state next,
      Holds state → step state item = some next → Holds next) {first last : σ}
    (holds : Holds first) (runs : items.foldlM step first = some last) : Holds last := by
  induction items generalizing first with
  | nil =>
      cases runs
      exact holds
  | cons item rest induction =>
      rw [List.foldlM_cons] at runs
      obtain ⟨next, steps, runs⟩ := Option.bind_eq_some_iff.1 runs
      rw [List.forall_mem_cons] at keeps
      exact induction keeps.2 (keeps.1 first next holds steps) runs

def Token.Flat : Token → Prop
  | .atom value => value.depth = 0
  | _ => True

theorem Token.flat_ofWord? {word : List Char} {token : Token}
    (isToken : Token.ofWord? word = some token) : token.Flat := by
  unfold Token.ofWord? at isToken
  split at isToken
  · cases isToken
    rfl
  split at isToken
  · cases isToken
    rfl
  split at isToken
  · cases isToken
    rfl
  · cases isToken

theorem Token.flat_ofNumeral? {numeral : List Char} {token : Token}
    (isToken : Token.ofNumeral? numeral = some token) : token.Flat := by
  obtain ⟨parts, -, rfl⟩ := Option.map_eq_some_iff.1 isToken
  split
  · rfl
  · rfl

theorem Scanner.flat_start {tokens : List Token} (flat : ∀ token ∈ tokens, token.Flat)
    {c : Char} {next : Scanner} (starts : Scanner.start tokens c = some next) :
    ∀ token ∈ next.tokens, token.Flat := by
  unfold Scanner.start at starts
  grind [Token.Flat]

namespace OpenToken

variable (kind : OpenToken)
  (flatToken : ∀ chars token, kind.token? chars = some token → token.Flat)
  {tokens : List Token} (flat : ∀ token ∈ tokens, token.Flat) {seen : List Char}

include flatToken flat

theorem flat_step {c : Char} {next : Scanner}
    (steps : Scanner.step ⟨tokens, kind.mode seen⟩ c = some next) :
    ∀ token ∈ next.tokens, token.Flat := by
  rw [kind.step_eq] at steps
  split at steps
  · cases steps
    exact flat
  · obtain ⟨token, isToken, starts⟩ := Option.bind_eq_some_iff.1 steps
    exact Scanner.flat_start (List.forall_mem_cons.2 ⟨flatToken _ token isToken, flat⟩)
      starts

theorem flat_finish {all : List Token}
    (finishes : Scanner.finish ⟨tokens, kind.mode seen⟩ = some all) :
    ∀ token ∈ all, token.Flat := by
  rw [kind.finish_eq] at finishes
  obtain ⟨token, isToken, rfl⟩ := Option.map_eq_some_iff.1 finishes
  intro other mem
  rw [List.mem_reverse] at mem
  exact List.forall_mem_cons.2 ⟨flatToken _ token isToken, flat⟩ other mem

end OpenToken

namespace Scanner

theorem flat_step {scanner next : Scanner} (flat : ∀ token ∈ scanner.tokens, token.Flat)
    {c : Char} (steps : scanner.step c = some next) :
    ∀ token ∈ next.tokens, token.Flat := by
  obtain ⟨tokens, mode⟩ := scanner
  cases mode with
  | between => exact flat_start flat steps
  | word seen => exact OpenToken.word.flat_step (fun _ _ => Token.flat_ofWord?) flat steps
  | numeral seen =>
      exact OpenToken.numeral.flat_step (fun _ _ => Token.flat_ofNumeral?) flat steps
  | text seen =>
      simp only [step] at steps
      grind [Token.Flat]
  | escape seen =>
      simp only [step] at steps
      grind [Option.map_eq_some_iff]
  | unit seen digits value =>
      simp only [step] at steps
      grind [Option.map_eq_some_iff]

theorem flat_finish {scanner : Scanner} (flat : ∀ token ∈ scanner.tokens, token.Flat)
    {tokens : List Token} (finishes : scanner.finish = some tokens) :
    ∀ token ∈ tokens, token.Flat := by
  obtain ⟨before, mode⟩ := scanner
  cases mode with
  | between =>
      cases finishes
      simpa using flat
  | word seen =>
      exact OpenToken.word.flat_finish (fun _ _ => Token.flat_ofWord?) flat finishes
  | numeral seen =>
      exact OpenToken.numeral.flat_finish (fun _ _ => Token.flat_ofNumeral?) flat finishes
  | text seen => cases finishes
  | escape seen => cases finishes
  | unit seen digits value => cases finishes

end Scanner

theorem flat_of_scan {chars : List Char} {tokens : List Token}
    (scanned : scan chars = some tokens) :
    ∀ token ∈ tokens, token.Flat := by
  obtain ⟨scanner, runs, finishes⟩ := Option.bind_eq_some_iff.1 scanned
  have flat : ∀ token ∈ scanner.tokens, token.Flat :=
    holds_of_foldlM (fun scanner => ∀ token ∈ scanner.tokens, token.Flat)
      (fun _ _ _ _ flat steps => Scanner.flat_step flat steps) nofun runs
  exact Scanner.flat_finish flat finishes

def Frame.values : Frame → List Json
  | .array items => items
  | .object entries _ _ => entries.map (·.2)

theorem Frame.depth_close {frame : Frame} {limit : Nat}
    (shallow : ∀ value ∈ frame.values, value.depth ≤ limit) :
    frame.close.depth ≤ limit + 1 := by
  cases frame with
  | array items =>
      rw [Frame.close, depth, Nat.add_le_add_iff_right, depthItems_le_iff]
      intro item mem
      exact shallow item (List.mem_reverse.1 mem)
  | object entries intact key =>
      rw [Frame.close]
      split
      · rw [depth, Nat.add_le_add_iff_right, depthEntries_le_iff]
        intro entry mem
        exact shallow _ (List.mem_map_of_mem (List.mem_reverse.1 mem))
      · exact Nat.zero_le _

namespace Reader

/-- Says that the open containers and what they hold stay within the limit together. -/
def FramesFit : List Frame → Prop
  | [] => True
  | frame :: rest =>
      (∀ value ∈ frame.values, value.depth ≤ maxDepth - (rest.length + 1)) ∧
        FramesFit rest

structure Fits (reader : Reader) : Prop where
  frames : FramesFit reader.frames
  root : ∀ json, reader.root = some json → json.depth ≤ maxDepth

theorem fits_deliver {frames : List Frame} (fit : FramesFit frames) {value : Json}
    (shallow : value.depth ≤ maxDepth - frames.length) : (deliver frames value).Fits := by
  cases frames with
  | nil => exact ⟨trivial, fun json isRoot => Option.some.inj isRoot ▸ shallow⟩
  | cons frame rest =>
      match frame with
      | .array items => exact ⟨⟨List.forall_mem_cons.2 ⟨shallow, fit.1⟩, fit.2⟩, nofun⟩
      | .object entries intact (some key) =>
          exact ⟨⟨List.forall_mem_cons.2 ⟨shallow, fit.1⟩, fit.2⟩, nofun⟩
      | .object entries intact none => exact ⟨fit, nofun⟩

theorem fits_close {frame : Frame} {rest : List Frame} (fit : FramesFit (frame :: rest)) :
    (close frame rest).Fits := by
  apply fits_deliver fit.2
  split
  · have shallow := Frame.depth_close fit.1
    omega
  · exact Nat.zero_le _

theorem eq_of_guard {guard : Prop} [Decidable guard] {given next : Reader}
    (steps : (if guard then some given else none) = some next) : given = next :=
  Option.some.inj (Option.ite_none_right_eq_some.1 steps).2

theorem fits_step {reader next : Reader} (fits : reader.Fits) {token : Token}
    (flat : token.Flat) (steps : reader.step token = some next) : next.Fits := by
  obtain ⟨frames, place, root⟩ := reader
  have fit : FramesFit frames := fits.frames
  cases token with
  | openArray =>
      cases eq_of_guard steps
      exact ⟨⟨nofun, fit⟩, nofun⟩
  | openObject =>
      cases eq_of_guard steps
      exact ⟨⟨nofun, fit⟩, nofun⟩
  | closeArray =>
      match frames with
      | [] => cases steps
      | .object .. :: rest => cases steps
      | .array items :: rest =>
          cases eq_of_guard steps
          exact fits_close fit
  | closeObject =>
      match frames with
      | [] => cases steps
      | .array items :: rest => cases steps
      | .object .. :: rest =>
          cases eq_of_guard steps
          exact fits_close fit
  | comma =>
      match frames with
      | [] => cases steps
      | .array items :: rest =>
          cases eq_of_guard steps
          exact ⟨fit, nofun⟩
      | .object .. :: rest =>
          cases eq_of_guard steps
          exact ⟨fit, nofun⟩
  | colon =>
      cases eq_of_guard steps
      exact ⟨fit, nofun⟩
  | atom value =>
      cases eq_of_guard steps
      exact fits_deliver fit (flat ▸ Nat.zero_le _)
  | text content =>
      have shallow : (content.elim Json.unreadable Json.text).depth ≤
          maxDepth - frames.length := by
        cases content with
        | none => exact Nat.zero_le _
        | some content => exact Nat.zero_le _
      match frames with
      | [] =>
          cases eq_of_guard steps
          exact fits_deliver fit shallow
      | .array items :: rest =>
          cases eq_of_guard steps
          exact fits_deliver fit shallow
      | .object entries intact key :: rest =>
          simp only [step] at steps
          split at steps
          · cases steps
            exact ⟨fit, nofun⟩
          · cases eq_of_guard steps
            exact fits_deliver fit shallow

end Reader

theorem depth_le_of_parse? {text : String} {json : Json}
    (reads : parse? text = some json) :
    json.depth ≤ maxDepth := by
  obtain ⟨tokens, scanned, reads⟩ := Option.bind_eq_some_iff.1 reads
  obtain ⟨reader, runs, ends⟩ := Option.bind_eq_some_iff.1 reads
  have starts : Reader.Fits ⟨[], .value, none⟩ := ⟨trivial, nofun⟩
  have fits : reader.Fits :=
    holds_of_foldlM Reader.Fits
      (fun token mem _ _ fits steps =>
        Reader.fits_step fits (flat_of_scan scanned token mem) steps) starts runs
  split at ends
  · exact fits.root json ends
  · cases ends

end BehaviorContract.Json
