import Gloss.Proofs.Agreement
import Gloss.Proofs.Reading

/-! The index of a list of sources is made of the parts that the sources add, one after another. A
source that cannot be read takes nothing from what the others add, and sources at the end of the
list leave the answers that come from those before them as they are. -/

namespace Gloss

namespace Index

variable {A B : List Source} {a b : Index}

theorem build_append (ha : build A = .ok a) (hb : build B = .ok b) :
    build (A ++ B) = .ok ⟨a.entries ++ b.entries, a.failures ++ b.failures⟩ := by
  obtain ⟨i, hi⟩ : ∃ i, build (A ++ B) = .ok i := by
    apply exists_build_iff.mpr
    intro s hs
    rcases List.mem_append.mp hs with hs | hs
    · exact not_faults_of_build ha s hs
    · exact not_faults_of_build hb s hs
  rw [hi, eq_of_build hi, eq_of_build ha, eq_of_build hb, List.flatMap_append, List.flatMap_append]

theorem build_singleton_of_isolated {s : Source} {e : ReadError} (hload : s.load = .error e)
    (hisolated : e.isolated = true) : build [s] = .ok ⟨[], [⟨s.name, e.message⟩]⟩ := by
  rw [build, ofSource, hload, ofOutcome, if_pos hisolated]
  rfl

/-- What stops the building of an index is the first of its sources that stops it. -/
theorem build_eq_error_iff {sources : List Source} {e : ReadError} :
    build sources = .error e ↔
      ∃ before s after, sources = before ++ s :: after ∧ s.Faults e ∧
        ∀ x ∈ before, ∀ cause, ¬x.Faults cause := by
  constructor
  · induction sources with
    | nil => rintro ⟨⟩
    | cons s rest ih =>
      intro h
      obtain hfirst | ⟨first, hfirst, h⟩ := bind_eq_error_iff.mp h
      · exact ⟨[], s, rest, rfl, ofSource_eq_error_iff.mp hfirst, List.forall_mem_nil _⟩
      · obtain hothers | ⟨others, -, h⟩ := bind_eq_error_iff.mp h
        · obtain ⟨before, x, after, rfl, hx, hbefore⟩ := ih hothers
          refine ⟨s :: before, x, after, rfl, hx, List.forall_mem_cons.mpr ⟨?_, hbefore⟩⟩
          intro cause hfaults
          rw [ofSource_eq_error_iff.mpr hfaults] at hfirst
          cases hfirst
        · cases h
  · rintro ⟨before, s, after, rfl, hs, hbefore⟩
    induction before with
    | nil =>
      rw [List.nil_append, build, ofSource_eq_error_iff.mpr hs]
      rfl
    | cons x before ih =>
      obtain ⟨hx, hbefore⟩ := List.forall_mem_cons.mp hbefore
      rw [List.cons_append, build, ih hbefore]
      cases hfirst : ofSource x with
      | error cause => exact absurd (ofSource_eq_error_iff.mp hfirst) (hx cause)
      | ok first => rfl

end Index

/-! ### More notes -/

section Notes

variable (notes more : List Entry) (d : Document)

theorem decorations_append :
    decorations (notes ++ more) d = decorations notes d ++ decorations more d := by
  rw [decorations, allSpans, List.flatMap_append, List.map_append]
  rfl

theorem matchAt_append (line : Text) (c : Int) :
    matchAt (notes ++ more) line c = (matchAt notes line c).or (matchAt more line c) := by
  rw [matchAt, allSpans, List.flatMap_append, List.find?_append]
  rfl

/-- More notes at the end do not change which key is found at a cursor, if one is. -/
theorem cursorMatch_append (line column : Int) :
    cursorMatch notes d line column = .ok none ∨
      cursorMatch (notes ++ more) d line column = cursorMatch notes d line column := by
  simp only [cursorMatch]
  cases d.line? line with
  | error e => exact .inr rfl
  | ok n =>
    simp only [bind, Except.bind, matchAt_append]
    cases matchAt notes (d.lineText n) column with
    | none => exact .inl rfl
    | some m => exact .inr rfl

theorem hoverAt_append (cwd : Location) (root : Option Path) (line column : Int) :
    hoverAt cwd root notes d line column = .ok none ∨
      hoverAt cwd root (notes ++ more) d line column = hoverAt cwd root notes d line column := by
  rw [hoverAt, hoverAt]
  rcases cursorMatch_append notes more d line column with h | h
  · rw [h]
    exact .inl rfl
  · rw [h]
    exact .inr rfl

theorem definitionAt_append (line column : Int) :
    definitionAt notes d line column = .ok none ∨
      definitionAt (notes ++ more) d line column = definitionAt notes d line column := by
  rw [definitionAt, definitionAt]
  rcases cursorMatch_append notes more d line column with h | h
  · rw [h]
    exact .inl rfl
  · rw [h]
    exact .inr rfl

end Notes

namespace Service

variable {s s' : Service} {w w' : World} {i : Index}

/-- The answers of the service `s` stand when it is asked as `s'` in `w'`: its marks come first
there, in the same color, and what it says to a cursor is said again unless it is nothing. -/
structure StandsIn (s : Service) (w : World) (s' : Service) (w' : World) : Prop where
  highlight : ∀ t language, ∃ h h', s.highlight w t language = .ok h ∧
    s'.highlight w' t language = .ok h' ∧ h'.color = h.color ∧ h.decorations <+: h'.decorations
  hover : ∀ t line column, s.hover w t line column = .ok none ∨
    s'.hover w' t line column = s.hover w t line column
  definition : ∀ t line column, s.definition w t line column = .ok none ∨
    s'.definition w' t line column = s.definition w t line column

/-- The answers of a service stand when it finds more notes after those that it knew. -/
theorem standsIn_of_index {more : List Entry} {failures : List Failure}
    (hconfig : s'.config = s.config) (hcwd : w'.session.cwd = w.session.cwd)
    (hindex : s.index w = .ok i) (hindex' : s'.index w' = .ok ⟨i.entries ++ more, failures⟩) :
    s.StandsIn w s' w' where
  highlight t language := by
    have happlies : s'.appliesTo language = s.appliesTo language := by
      cases language with
      | none => rfl
      | some l => rw [appliesTo, appliesTo, hconfig]
    cases h : s.appliesTo language with
    | false =>
      rw [highlight, highlight, happlies, h, hconfig]
      exact ⟨_, _, rfl, rfl, rfl, List.nil_prefix⟩
    | true =>
      rw [highlight_of_index hindex h, highlight_of_index hindex' (happlies.trans h), hconfig,
        decorations_append]
      exact ⟨_, _, rfl, rfl, rfl, List.prefix_append _ _⟩
  hover t line column := by
    rw [hover_eq hindex, hover_eq hindex', hcwd, hconfig]
    rcases hoverAt_append i.entries more (Document.ofText t) w.session.cwd (some s.config.root) line
      column with h | h
    · exact .inl (by rw [h]; rfl)
    · exact .inr (by rw [h])
  definition t line column := by
    rw [definition_eq hindex, definition_eq hindex']
    rcases definitionAt_append i.entries more (Document.ofText t) line column with h | h
    · exact .inl (by rw [h]; rfl)
    · exact .inr (by rw [h])

end Service

/-- The readers that are asked while the index of `sources` is built, each before those after it.
They are readers of sources without a text at hand: all such readers, or those up to the first
source that stops the building. The index is what it is whatever effects they have. -/
structure AsksOnly (sources asked : List Source) : Prop where
  no_text : ∀ s ∈ asked, s.text = none
  of_build : ∀ i, Index.build sources = .ok i → asked = sources.filter Source.hasReaderOnly
  of_faults : ∀ before s after e, sources = before ++ s :: after → s.Faults e →
    (∀ x ∈ before, ∀ cause, ¬x.Faults cause) → asked = (before ++ [s]).filter Source.hasReaderOnly
  run : ∀ (m : Type → Type) [Monad m] [LawfulMonad m] (effect : Source → m Unit),
    (Index.buildBy (Ask.after effect) sources).run = do
      forM asked effect
      return Index.build sources

theorem asksOnly_reached (sources : List Source) :
    AsksOnly sources ((Source.reached sources).filter Source.hasReaderOnly) where
  no_text s hs := by
    have hreader := (List.mem_filter.mp hs).2
    rw [Source.hasReaderOnly, Bool.and_eq_true] at hreader
    exact Option.isNone_iff_eq_none.mp hreader.1
  of_build i hi := by
    have hall := Source.reached_append (Index.not_faults_of_build hi) []
    rw [List.append_nil] at hall
    rw [hall, Source.reached, List.append_nil]
  of_faults before s after e heq hs hbefore := by
    rw [heq, Source.reached_append hbefore, Source.reached_of_faults hs]
  run _ _ _ _ := Index.run_buildBy_after sources

/-- The index of two lists of sources holds what that of the first holds and then what that of the
second holds. A source that cannot be read adds one failure wherever it stands, and sources at the
end of the list let all answers stand. Building an index stops with the error of the first source
that stops it, and only the readers of sources without a text at hand are asked. -/
theorem sources_add_up :
    (∀ (A B : List Source) (a b : Index), Index.build A = .ok a → Index.build B = .ok b →
      Index.build (A ++ B) = .ok ⟨a.entries ++ b.entries, a.failures ++ b.failures⟩ ∧
      (∀ s e, s.load = .error e → e.isolated = true → Index.build (A ++ s :: B) =
        .ok ⟨a.entries ++ b.entries, a.failures ++ ⟨s.name, e.message⟩ :: b.failures⟩) ∧
      ∀ (s s' : Service) (w w' : World), s'.config = s.config →
        w'.session.cwd = w.session.cwd → s.provider w s.config = .ok A →
        s'.provider w' s'.config = .ok (A ++ B) → s.StandsIn w s' w') ∧
    ∀ sources : List Source,
      ((∃ e, Index.build sources = .error e) ↔ ∃ s ∈ sources, ∃ e, s.Faults e) ∧
      (∀ e, Index.build sources = .error e ↔ ∃ before s after, sources = before ++ s :: after ∧
        s.Faults e ∧ ∀ x ∈ before, ∀ cause, ¬x.Faults cause) ∧
      ∃ asked, AsksOnly sources asked := by
  refine ⟨fun A B a b ha hb => ⟨Index.build_append ha hb, ?_, ?_⟩, fun sources => ⟨?_, ?_, ?_⟩⟩
  · intro s e hload hisolated
    have hs := Index.build_singleton_of_isolated hload hisolated
    exact Index.build_append ha (Index.build_append hs hb)
  · intro s s' w w' hconfig hcwd hA hAB
    exact Service.standsIn_of_index hconfig hcwd (Service.index_of_build hA ha)
      (Service.index_of_build hAB (Index.build_append ha hb))
  · constructor
    · rintro ⟨e, he⟩
      obtain ⟨s, hs, hfaults⟩ := Index.exists_faults_of_build_error he
      exact ⟨s, hs, e, hfaults⟩
    · rintro ⟨s, hs, e, hfaults⟩
      cases hbuild : Index.build sources with
      | ok i => exact absurd hfaults (Index.not_faults_of_build hbuild s hs e)
      | error cause => exact ⟨cause, rfl⟩
  · exact fun e => Index.build_eq_error_iff
  · exact ⟨_, asksOnly_reached sources⟩

/-- A text at hand beside a reader that would stop the building, a file that is gone and one that is
read. -/
theorem sources_add_up_three :
    let held : Source := ⟨['n'], some "【k】v".toList, some (.error (.fault "no".toList))⟩
    let gone : Source := ⟨['x'], none, some (.error (.system "gone".toList))⟩
    let read : Source := ⟨['m'], none, some (.ok "【l】w".toList)⟩
    let a : Index := ⟨[⟨['k'], ['v'], ['n'], ⟨0, 0, 4⟩⟩], []⟩
    let b : Index := ⟨[⟨['l'], ['w'], ['m'], ⟨0, 0, 4⟩⟩], []⟩
    let s : Service := ⟨⟨.ofText ['/'], [], [], [], []⟩, suppliedProvider, none, 0⟩
    let w (sources : List Source) : World :=
      ⟨⟨.empty, [], [], [], ⟨none, none, none, none⟩⟩, sources⟩
    Index.build [held] = .ok a ∧ Index.build [read] = .ok b ∧
      gone.load = .error (.system "gone".toList) ∧
      Index.build [held, gone, read] =
        .ok ⟨a.entries ++ b.entries, [⟨['x'], "gone".toList⟩]⟩ ∧
      s.StandsIn (w [held]) s (w [held, read]) ∧ AsksOnly [held, gone, read] [gone, read] := by
  intro held gone read a b s w
  have ha : Index.build [held] = .ok a := by decide +kernel
  have hb : Index.build [read] = .ok b := by decide +kernel
  obtain ⟨-, hgone, hstands⟩ := sources_add_up.1 [held] [read] a b ha hb
  have hthree := hgone gone _ rfl rfl
  obtain ⟨-, -, asked, hasked⟩ := sources_add_up.2 [held, gone, read]
  have hfilter : asked = [gone, read] := hasked.of_build _ hthree
  exact ⟨ha, hb, rfl, hthree, hstands s s _ _ rfl rfl rfl rfl, hfilter ▸ hasked⟩

end Gloss
