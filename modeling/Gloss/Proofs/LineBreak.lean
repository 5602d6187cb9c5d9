import Gloss.Proofs.Lines

/-! Texts with their lines ended in other ways. Changing the line breaks of a text commutes with
putting texts together and with trimming. A carriage return before each line feed makes a text longer
by the number of its line feeds, and leaves its lines as they are. -/

namespace Gloss

/-- A way of ending the lines of a file. -/
inductive LineBreak where
  | feed
  | returnFeed
  | carriageReturn
  deriving DecidableEq, Repr

def LineBreak.toText : LineBreak → Text
  | .feed => ['\n']
  | .returnFeed => ['\r', '\n']
  | .carriageReturn => ['\r']

namespace Text

/-- A text with its lines ended in the given way. -/
def breakWith (lineBreak : LineBreak) (t : Text) : Text :=
  t.flatMap fun c => if c = '\n' then lineBreak.toText else [c]

variable {lineBreak : LineBreak} {t : Text}

@[simp] theorem breakWith_nil : breakWith lineBreak [] = [] := rfl

theorem breakWith_feed (r : Text) :
    breakWith lineBreak ('\n' :: r) = lineBreak.toText ++ breakWith lineBreak r := rfl

theorem breakWith_cons {c : Char} (hc : c ≠ '\n') (r : Text) :
    breakWith lineBreak (c :: r) = c :: breakWith lineBreak r := by
  rw [breakWith, List.flatMap_cons, if_neg hc]
  rfl

theorem breakWith_append (t s : Text) :
    breakWith lineBreak (t ++ s) = breakWith lineBreak t ++ breakWith lineBreak s :=
  List.flatMap_append

theorem breakWith_of_not_mem (h : '\n' ∉ t) : t.breakWith lineBreak = t := by
  induction t with
  | nil => rfl
  | cons c r ih =>
    obtain ⟨hc, hr⟩ := not_or.mp (mt List.mem_cons.mpr h)
    rw [breakWith_cons (Ne.symm hc), ih hr]

@[simp] theorem breakWith_eq_nil_iff : t.breakWith lineBreak = [] ↔ t = [] := by
  cases t with
  | nil => simp
  | cons c r =>
    by_cases hc : c = '\n'
    · subst hc
      cases lineBreak <;> simp [breakWith_feed, LineBreak.toText]
    · simp [breakWith_cons hc]

theorem head?_breakWith {c : Char} (hfeed : c ≠ '\n') (hreturn : c ≠ '\r') :
    (t.breakWith lineBreak).head? = some c ↔ t.head? = some c := by
  cases t with
  | nil => rfl
  | cons d r =>
    by_cases hd : d = '\n'
    · subst hd
      rw [breakWith_feed]
      cases lineBreak <;> simp [LineBreak.toText, hfeed.symm, hreturn.symm]
    · rw [breakWith_cons hd]
      rfl

/-! ### Classes that hold the line breaks -/

section Classes

variable {p : Char → Bool} {f : Char → Text}

/-- Replacing characters of a class by others of it changes nothing in what is left when they are
dropped. -/
theorem dropWhile_flatMap (hin : ∀ c, p c = true → ∀ d ∈ f c, p d = true)
    (hout : ∀ c, p c = false → f c = [c]) (t : Text) :
    (t.flatMap f).dropWhile p = (t.dropWhile p).flatMap f := by
  induction t with
  | nil => rfl
  | cons c r ih =>
    rw [List.flatMap_cons]
    cases hc : p c with
    | true =>
      rw [List.dropWhile_append_of_pos (hin c hc), ih, List.dropWhile_cons_of_pos hc]
    | false =>
      have hneg : ¬p c = true := by simp [hc]
      rw [hout c hc, List.singleton_append, List.dropWhile_cons_of_neg hneg,
        List.dropWhile_cons_of_neg hneg, List.flatMap_cons, hout c hc, List.singleton_append]

theorem trimBy_flatMap (hin : ∀ c, p c = true → ∀ d ∈ f c, p d = true)
    (hout : ∀ c, p c = false → f c = [c]) (t : Text) :
    trimBy p (t.flatMap f) = (t.trimBy p).flatMap f := by
  have hin' : ∀ c, p c = true → ∀ d ∈ (List.reverse ∘ f) c, p d = true := by simpa using hin
  have hout' : ∀ c, p c = false → (List.reverse ∘ f) c = [c] := by
    intro c hc
    simp [hout c hc]
  unfold trimBy
  rw [dropWhile_flatMap hin hout, List.reverse_flatMap, dropWhile_flatMap hin' hout',
    List.reverse_flatMap]
  congr 1
  funext c
  simp

theorem mem_break_of_class (hfeed : p '\n' = true) (hreturn : p '\r' = true) (c : Char)
    (hc : p c = true) : ∀ d ∈ (if c = '\n' then lineBreak.toText else [c]), p d = true := by
  split
  · cases lineBreak <;> simp [LineBreak.toText, hfeed, hreturn]
  · simp [hc]

theorem break_of_not_class (hfeed : p '\n' = true) (c : Char) (hc : p c = false) :
    (if c = '\n' then lineBreak.toText else [c]) = [c] := by
  rw [if_neg]
  rintro rfl
  simp [hfeed] at hc

theorem dropWhile_breakWith (hfeed : p '\n' = true) (hreturn : p '\r' = true) (t : Text) :
    (t.breakWith lineBreak).dropWhile p = breakWith lineBreak (t.dropWhile p) :=
  dropWhile_flatMap (mem_break_of_class hfeed hreturn) (break_of_not_class hfeed) t

theorem takeWhile_breakWith (hfeed : p '\n' = true) (hreturn : p '\r' = true) (t : Text) :
    (t.breakWith lineBreak).takeWhile p = breakWith lineBreak (t.takeWhile p) := by
  have hsplit := List.takeWhile_append_dropWhile (p := p) (l := t.breakWith lineBreak)
  have happend : breakWith lineBreak (t.takeWhile p ++ t.dropWhile p) = _ := breakWith_append _ _
  rw [dropWhile_breakWith hfeed hreturn] at hsplit
  rw [List.takeWhile_append_dropWhile] at happend
  exact List.append_cancel_right (hsplit.trans happend)

/-- Line breaks are trimmed away in whichever way they are written. -/
theorem trim_breakWith (t : Text) : (t.breakWith lineBreak).trim = t.trim.breakWith lineBreak :=
  trimBy_flatMap (mem_break_of_class (by decide) (by decide)) (break_of_not_class (by decide)) t

end Classes

/-! ### A carriage return before each line feed -/

theorem breakWith_returnFeed (r : Text) :
    breakWith .returnFeed ('\n' :: r) = '\r' :: '\n' :: breakWith .returnFeed r := rfl

theorem length_breakWith_returnFeed (t : Text) :
    (t.breakWith .returnFeed).length = t.length + t.count '\n' := by
  induction t with
  | nil => rfl
  | cons c r ih =>
    by_cases hc : c = '\n'
    · subst hc
      simp [breakWith_returnFeed, ih]
      omega
    · simp [breakWith_cons hc, ih, hc]
      omega

theorem count_breakWith_returnFeed (t : Text) :
    (t.breakWith .returnFeed).count '\n' = t.count '\n' := by
  induction t with
  | nil => rfl
  | cons c r ih =>
    by_cases hc : c = '\n'
    · subst hc
      simp [breakWith_returnFeed, ih]
    · simp [breakWith_cons hc, ih, hc]

theorem dropReturn_of_not_mem (h : '\r' ∉ t) : dropReturn t = t := by
  unfold dropReturn
  rw [if_neg fun hlast => h (List.mem_of_getLast? hlast)]

/-- The return that `tail` may be belongs to the break of the line. -/
theorem dropReturn_append {tail : Text} (h : '\r' ∉ t) (htail : tail = [] ∨ tail = ['\r']) :
    dropReturn (t ++ tail) = t := by
  rcases htail with rfl | rfl
  · rw [List.append_nil, dropReturn_of_not_mem h]
  · simp [dropReturn]

/-- A line of a text stays a line with returns, one of which may end it. -/
theorem Cut.exists_breakWith {before line after : Text} (h : Cut t before line after) :
    ∃ tail after', (tail = [] ∨ tail = ['\r']) ∧
      Cut (t.breakWith .returnFeed) (before.breakWith .returnFeed) (line ++ tail) after' := by
  have hline : line.breakWith .returnFeed = line := breakWith_of_not_mem h.no_feed
  have hbefore : before.breakWith .returnFeed = [] ∨
      ∃ front, before.breakWith .returnFeed = front ++ ['\n'] := by
    rcases h.before_ends with rfl | ⟨front, rfl⟩
    · exact .inl rfl
    · refine .inr ⟨front.breakWith .returnFeed ++ ['\r'], ?_⟩
      simp [breakWith_append, breakWith_returnFeed]
  rcases h.after_begins with rfl | ⟨back, rfl⟩
  · refine ⟨[], [], .inl rfl, ⟨?_, hbefore, by simpa using h.no_feed, .inl rfl⟩⟩
    simp [h.eq, breakWith_append, hline]
  · refine ⟨['\r'], '\n' :: breakWith .returnFeed back, .inr rfl,
      ⟨?_, hbefore, by simpa using h.no_feed, .inr ⟨_, rfl⟩⟩⟩
    simp [h.eq, breakWith_append, hline, breakWith_returnFeed]

end Text

end Gloss
