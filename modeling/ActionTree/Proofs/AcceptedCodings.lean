import ActionTree.Response.Coding

/-!
# ActionTree.Proofs.AcceptedCodings

What becomes of a content coding that a client refuses.

1. the header `Accept-Encoding` is a list of entries, each a name with parameters
   (`CodingEntry`), and a parameter that begins with `q=` is a quality, the letter
   in either case (`quality?`);
2. a client refuses a coding if some entry names it with a quality of zero and no
   entry that names it is without such a quality (`Headers.Refuses`);
3. every entry is looked at by itself, so an entry `*` accepts what another one
   refuses; and the quality is looked for under the small letter only
   (`Headers.Overlooks`).

A refused coding is accepted in these two ways and in no other, and a response is
sent in it only then.
-/

namespace ActionTree

open Text

/-! ## Entries -/

/-- An entry of `Accept-Encoding`: a name, and the parameters behind it. -/
structure CodingEntry where
  name : String
  parameters : List String
deriving DecidableEq, Repr

/-- The entry in a text. -/
def CodingEntry.ofText (s : String) : CodingEntry :=
  match pieces ';' s with
  | [] => ⟨"", []⟩
  | name :: parameters => ⟨trim name, parameters⟩

/-- The entries of `Accept-Encoding`; none if there is no such header. -/
def Headers.entries (hs : Headers) : List CodingEntry :=
  match hs.find? "Accept-Encoding" with
  | some text => (pieces ',' text).map CodingEntry.ofText
  | none => []

/-- The number in a parameter behind a mark. -/
def numberBehind (mark parameter : String) : Option Double :=
  (stripStart mark (trim parameter)).bind fun q => readWidth .narrow (trim q).toList

/-- The quality that a parameter gives; the names of parameters have no case. -/
def quality? (parameter : String) : Option Double :=
  (numberBehind "q=" parameter).or (numberBehind "Q=" parameter)

/-- Zero, of either sign. -/
def Double.IsZero (d : Double) : Prop := ∃ x : Finite, d = .finite x ∧ x.isZero = true

namespace CodingEntry

variable (e : CodingEntry)

/-- The entry names a coding, the case of letters ignored. -/
def Names (coding : String) : Prop := sameIgnoringCase e.name coding = true

/-- The entry has a quality of zero. -/
def HasZero : Prop := ∃ p ∈ e.parameters, ∃ d, quality? p = some d ∧ d.IsZero

/-- The entry has a quality above zero or none. -/
def Willing : Prop := ∀ p ∈ e.parameters, ∀ d, quality? p = some d → d.isAtMostZero = false

/-- Nothing behind a mark in the entry is zero or less. -/
def Clear (mark : String) : Prop :=
  ∀ p ∈ e.parameters, ∀ d, numberBehind mark p = some d → d.isAtMostZero = false

end CodingEntry

/-- The client refuses a coding: some entry names it with a quality of zero, and
none names it with a quality above zero or without one. -/
structure Headers.Refuses (hs : Headers) (coding : String) : Prop where
  refused : ∃ e ∈ hs.entries, e.Names coding ∧ e.HasZero
  unwilling : ∀ e ∈ hs.entries, e.Names coding → ¬ e.Willing

/-- An entry speaks for a coding although it is refused: one for everything, or
one that refuses it under the capital letter only. -/
def Headers.Overlooks (hs : Headers) (coding : String) : Prop :=
  ∃ e ∈ hs.entries, e.Clear "q=" ∧ (e.name = "*" ∨ e.Names coding ∧ ¬ e.Clear "Q=")

/-! ## What is accepted -/

theorem refuses_eq_false_iff {p : String} :
    refuses p = false ↔ ∀ d, numberBehind "q=" p = some d → d.isAtMostZero = false := by
  unfold refuses numberBehind
  cases stripStart "q=" (trim p) with
  | none => simp
  | some q => cases hq : readWidth .narrow (trim q).toList <;> simp [hq]

theorem entryAccepts_iff {text coding : String} :
    entryAccepts text coding = true ↔
      (CodingEntry.ofText text).Clear "q=" ∧
        ((CodingEntry.ofText text).Names coding ∨ (CodingEntry.ofText text).name = "*") := by
  unfold entryAccepts CodingEntry.ofText
  cases hp : pieces ';' text with
  | nil => simp [pieces, piecesOf_ne_nil] at hp
  | cons name parameters =>
    simp [CodingEntry.Clear, CodingEntry.Names, ← refuses_eq_false_iff]

/-- Every entry is looked at by itself. -/
theorem Headers.accepts_iff {hs : Headers} {coding : String} :
    hs.accepts coding = true ↔
      ∃ e ∈ hs.entries, e.Clear "q=" ∧ (e.Names coding ∨ e.name = "*") := by
  unfold Headers.accepts Headers.entries
  cases hs.find? "Accept-Encoding" with
  | none => simp
  | some text =>
    simp only [List.any_eq_true, List.mem_map, entryAccepts_iff]
    constructor
    · rintro ⟨entry, hentry, h⟩
      exact ⟨_, ⟨entry, hentry, rfl⟩, h⟩
    · rintro ⟨_, ⟨entry, hentry, rfl⟩, h⟩
      exact ⟨entry, hentry, h⟩

/-- A quality that is not under the small letter is under the capital one. -/
theorem CodingEntry.not_clear_of_not_willing {e : CodingEntry} (h : ¬ e.Willing)
    (hclear : e.Clear "q=") : ¬ e.Clear "Q=" := by
  intro hcapital
  refine h fun p hp d hd => ?_
  unfold quality? at hd
  cases hsmall : numberBehind "q=" p with
  | some d' =>
    rw [hsmall, Option.some_or, Option.some.injEq] at hd
    exact hd ▸ hclear p hp d' hsmall
  | none =>
    rw [hsmall, Option.none_or] at hd
    exact hcapital p hp d hd

theorem Headers.Refuses.accepts_iff {hs : Headers} {coding : String} (h : hs.Refuses coding) :
    hs.accepts coding = true ↔ hs.Overlooks coding := by
  rw [Headers.accepts_iff]
  constructor
  · rintro ⟨e, he, hclear, hnames | hall⟩
    · have hcapital := CodingEntry.not_clear_of_not_willing (h.unwilling e he hnames) hclear
      exact ⟨e, he, hclear, .inr ⟨hnames, hcapital⟩⟩
    · exact ⟨e, he, hclear, .inl hall⟩
  · rintro ⟨e, he, hclear, hall | ⟨hnames, -⟩⟩
    · exact ⟨e, he, hclear, .inr hall⟩
    · exact ⟨e, he, hclear, .inl hnames⟩

/-! ## What is sent -/

/-- The header line that announces a coding. -/
def announcement (coding : String) : String := "Content-Encoding: " ++ coding

/-- A line that is sent beside those of the response itself. -/
def Transmission.Adds (t : Transmission) (r : Rendered) (line : String) : Prop :=
  ∃ more, t.headers = r.headers ++ more ∧ line ∈ more

theorem announcement_inj {a b : String} : announcement a = announcement b ↔ a = b :=
  String.append_right_inj _

theorem announcement_ne_vary (coding : String) : announcement coding ≠ "Vary: Accept-Encoding" := by
  unfold announcement
  intro h
  have hhead := congrArg (fun s => s.toList.head?) h
  simp at hhead

/-- `gzip` comes first. -/
theorem choose?_eq_iff {hs : Headers} {k : Coding} :
    Coding.choose? hs = some k ↔
      hs.accepts k.name = true ∧ (k = .deflate → hs.accepts "gzip" = false) := by
  unfold Coding.choose?
  cases k <;> cases hgzip : hs.accepts "gzip" <;> simp [Coding.name, hgzip]

theorem choose?_name_iff {hs : Headers} {coding : String} :
    (∃ k, Coding.choose? hs = some k ∧ k.name = coding) ↔
      hs.accepts coding = true ∧
        (coding = "gzip" ∨ coding = "deflate" ∧ hs.accepts "gzip" = false) := by
  constructor
  · rintro ⟨k, hk, rfl⟩
    obtain ⟨haccepts, hfirst⟩ := choose?_eq_iff.1 hk
    cases k with
    | gzip => exact ⟨haccepts, .inl rfl⟩
    | deflate => exact ⟨haccepts, .inr ⟨rfl, hfirst rfl⟩⟩
  · rintro ⟨haccepts, rfl | ⟨rfl, hno⟩⟩
    · exact ⟨.gzip, choose?_eq_iff.2 ⟨haccepts, nofun⟩, rfl⟩
    · exact ⟨.deflate, choose?_eq_iff.2 ⟨haccepts, fun _ => hno⟩, rfl⟩

theorem coded_adds_iff {r : Rendered} {hs : Headers} {coding : String} :
    (Transmission.coded r hs).Adds r (announcement coding) ↔
      r.body.isEmpty = false ∧ ∃ k, Coding.choose? hs = some k ∧ k.name = coding := by
  unfold Transmission.coded Transmission.Adds
  cases hbody : r.body.isEmpty with
  | true => simp
  | false =>
    cases hk : Coding.choose? hs with
    | none => simp
    | some k =>
      have hadded : announcement coding ∈ [announcement k.name, "Vary: Accept-Encoding"] ↔
          k.name = coding := by
        simp only [List.mem_cons, List.not_mem_nil, or_false, announcement_inj,
          announcement_ne_vary]
        exact eq_comm
      have hline : "Content-Encoding: " ++ k.name = announcement k.name := rfl
      simp [hline, ← hadded]

/-- A coding that the client refuses is accepted if and only if some entry speaks
for it all the same: an entry for everything, or one that names the coding and
refuses it under the capital letter only.  A response is sent in a refused coding
then, and only then; of the two codings there are `gzip` comes first. -/
theorem refused_coding_used_iff {hs : Headers} {coding : String} (h : hs.Refuses coding) :
    (hs.accepts coding = true ↔ hs.Overlooks coding) ∧
      ∀ r : Rendered, (Transmission.coded r hs).Adds r (announcement coding) ↔
        r.body.isEmpty = false ∧ hs.Overlooks coding ∧
          (coding = "gzip" ∨ coding = "deflate" ∧ hs.accepts "gzip" = false) := by
  refine ⟨h.accepts_iff, fun r => ?_⟩
  rw [coded_adds_iff, choose?_name_iff, h.accepts_iff]

/-- The headers of a client that sends nothing but `Accept-Encoding`. -/
def acceptEncoding (text : String) : Headers := [("Accept-Encoding", text)]

theorem refuses_of_only {hs : Headers} {coding : String} (name parameter : String)
    (hmem : ⟨name, [parameter]⟩ ∈ hs.entries) (hname : sameIgnoringCase name coding = true)
    (honly : ∀ e ∈ hs.entries, sameIgnoringCase e.name coding = true → e = ⟨name, [parameter]⟩)
    (hquality : quality? parameter = some (.finite ⟨false, 0, -149⟩)) : hs.Refuses coding := by
  refine ⟨⟨_, hmem, hname, parameter, by simp, _, hquality, _, rfl, rfl⟩, ?_⟩
  intro e he hnames hwilling
  obtain rfl := honly e he hnames
  exact absurd (hwilling parameter (by simp) _ hquality) (by decide)

/-- A quality under the capital letter is passed over. -/
theorem refused_coding_used_iff_capital :
    (acceptEncoding "gzip;Q=0").Refuses "gzip" ∧
      (acceptEncoding "gzip;Q=0").accepts "gzip" = true := by
  have hrefuses : (acceptEncoding "gzip;Q=0").Refuses "gzip" :=
    refuses_of_only "gzip" "Q=0" (by decide) (by decide) (by decide) (by decide)
  refine ⟨hrefuses, (refused_coding_used_iff hrefuses).1.2 ⟨⟨"gzip", ["Q=0"]⟩, by decide, ?_, ?_⟩⟩
  · intro p hp d hd
    obtain rfl : p = "Q=0" := by simpa using hp
    rw [show numberBehind "q=" "Q=0" = none by decide] at hd
    simp at hd
  · refine .inr ⟨by unfold CodingEntry.Names; decide, fun hclear => ?_⟩
    have hzero : numberBehind "Q=" "Q=0" = some (.finite ⟨false, 0, -149⟩) := by decide
    exact absurd (hclear "Q=0" (by simp) _ hzero) (by decide)

/-- An entry for everything accepts what another entry refuses, and the response
is sent in it. -/
theorem refused_coding_sent :
    (acceptEncoding "gzip;q=0, *").Refuses "gzip" ∧
      (acceptEncoding "gzip;q=0, *").accepts "gzip" = true ∧
      (Transmission.coded ⟨[], [0x61]⟩ (acceptEncoding "gzip;q=0, *")).headers =
        ["Content-Encoding: gzip", "Vary: Accept-Encoding"] :=
  ⟨refuses_of_only "gzip" "q=0" (by decide) (by decide) (by decide) (by decide), by decide,
    by decide⟩

end ActionTree
