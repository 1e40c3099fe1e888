import Mathlib.Data.Set.Function
import VehiclesOnline.Library.DateFormat
import VehiclesOnline.Wizard.AccessLog

/-! # The timestamps of the access log

The format of the timestamps has the hours of a clock of twelve, so that a timestamp stands for two
instants of its day. -/

namespace VehiclesOnline

open DateFormat

/-- The time zone of the server in milliseconds east of UTC at an instant, and the names of the
months in its language. -/
structure JvmDefaults where
  offset : ℤ → ℤ
  symbols : Symbols
  shortMonths_inj : ∀ month month', (1 ≤ month ∧ month ≤ 12) → (1 ≤ month' ∧ month' ≤ 12) →
    symbols.shortMonths month = symbols.shortMonths month' → month = month'
  slash_notMem : ∀ month, '/' ∉ (symbols.shortMonths month).toList

namespace ClfEntryBuilder

def dateFormat : SimpleDateFormat where
  pattern := "dd/MMM/yyyy:hh:mm:ss +SSS"
  items := [.field .dayOfMonth 2, .literal '/', .field .month 3, .literal '/', .field .year 4,
    .literal ':', .field .hourFromOne 2, .literal ':', .field .minute 2, .literal ':',
    .field .second 2, .literal ' ', .literal '+', .field .millisecond 3]
  compile_pattern := rfl

/-- What stands in brackets in a line of the log. -/
def timestamp (texts : JdkTexts) (requestTimestamp : ℤ) : String :=
  "[" ++ texts.dateFormat requestTimestamp ++ "]"

theorem timestamp_inj {texts : JdkTexts} {t t' : ℤ} :
    timestamp texts t = timestamp texts t' ↔ texts.dateFormat t = texts.dateFormat t' := by
  rw [timestamp, timestamp, String.append_left_inj, String.append_right_inj]

/-- Only the timestamp of a line depends on when the request came in. -/
theorem clfEntry_eq (texts : JdkTexts) (request : LoggedRequest) (result : ResponseHeader) :
    ∃ front back, ∀ requestTimestamp, clfEntry texts requestTimestamp request result =
      front ++ timestamp texts requestTimestamp ++ back := by
  refine ⟨[request.headers HttpHeaders.XForwardedFor, request.remoteAddress,
      request.headers HttpHeaders.XRealIp, some "-"].reduceOption.headD "-" ++ " - - ",
    " \"" ++ request.method ++ " " ++ request.uri ++ " " ++ request.version ++ "\" " ++
      toString result.status ++ " " ++ (result.headers HttpHeaders.ContentLength).getD "-" ++
        " \"" ++ (request.cookies.get trackingIdCookieName).getD "-" ++ "\" ",
    fun requestTimestamp => ?_⟩
  simp only [clfEntry, timestamp, String.append_assoc]

end ClfEntryBuilder

namespace JvmDefaults

variable (jvm : JvmDefaults)

/-- The local time of an instant, in milliseconds. -/
def wallClock (t : ℤ) : ℤ := t + jvm.offset t

/-- The texts of a JDK with these defaults. -/
def texts (uriSyntaxMessage : String → String) : JdkTexts where
  dateFormat t :=
    ClfEntryBuilder.dateFormat.format jvm.symbols (Fields.ofMillis (jvm.wallClock t))
  uriSyntaxMessage := uriSyntaxMessage

/-- One in each half of one day, with twelve hours between them. -/
def HalfDayApart (t t' : ℤ) : Prop :=
  jvm.wallClock t / millisPerDay = jvm.wallClock t' / millisPerDay ∧
    (t' = t + millisPerHalf ∨ t = t' + millisPerHalf)

/-- One before and one in the common era, on the same date of the era and at the same time of a
half of the day. -/
def ErasApart (t t' : ℤ) : Prop :=
  ¬ (IsCommonEra (localDate (jvm.wallClock t)) ↔ IsCommonEra (localDate (jvm.wallClock t'))) ∧
    SameDateOfEra (localDate (jvm.wallClock t)) (localDate (jvm.wallClock t')) ∧
    jvm.wallClock t % millisPerHalf = jvm.wallClock t' % millisPerHalf

instance (t t' : ℤ) : Decidable (jvm.HalfDayApart t t') := inferInstanceAs (Decidable (_ ∧ _))

instance (t t' : ℤ) : Decidable (jvm.ErasApart t t') := inferInstanceAs (Decidable (_ ∧ _))

/-! ### What a timestamp tells -/

theorem separated_items : Separated jvm.symbols ClfEntryBuilder.dateFormat.items := by
  have hnumber : ∀ (letter : Letter) (c : Char), letter ≠ .month → letter ≠ .year →
      c.isDigit = false → (Item.field letter 2).Avoids jvm.symbols c :=
    fun letter c hmonth hyear hc => avoids_number hc hmonth hyear
  refine .field (hnumber _ _ (by decide) (by decide) rfl) (.field (fun fields => ?_)
    (.field (avoids_year rfl (by decide)) (.field (hnumber _ _ (by decide) (by decide) rfl)
      (.field (hnumber _ _ (by decide) (by decide) rfl)
        (.field (hnumber _ _ (by decide) (by decide) rfl) (.literal _ (.last _)))))))
  rw [text_shortMonth]
  exact jvm.slash_notMem fields.month

variable {jvm} {t t' : ℤ} {fields fields' : Fields}

/-- The fields of the pattern are read from its text. -/
theorem format_eq_iff_fields (hmonth : 1 ≤ fields.month ∧ fields.month ≤ 12)
    (hmonth' : 1 ≤ fields'.month ∧ fields'.month ≤ 12) :
    ClfEntryBuilder.dateFormat.format jvm.symbols fields =
        ClfEntryBuilder.dateFormat.format jvm.symbols fields' ↔
      (fields.year = fields'.year ∧ fields.month = fields'.month ∧
        fields.dayOfMonth = fields'.dayOfMonth) ∧
      Letter.hourFromOne.value fields = Letter.hourFromOne.value fields' ∧
        fields.minute = fields'.minute ∧ fields.second = fields'.second ∧
        fields.millisecond = fields'.millisecond := by
  have hnames : (jvm.symbols.shortMonths fields.month).toList =
      (jvm.symbols.shortMonths fields'.month).toList ↔ fields.month = fields'.month := by
    rw [String.toList_inj]
    exact ⟨jvm.shortMonths_inj _ _ hmonth hmonth', congrArg _⟩
  rw [SimpleDateFormat.format, SimpleDateFormat.format, String.ofList_inj,
    format_eq_iff jvm.separated_items]
  simp (disch := decide) only [ClfEntryBuilder.dateFormat, List.forall_mem_cons, text_literal,
    text_shortMonth, hnames, text_year_eq_iff, text_number_eq_iff, true_and]
  constructor
  · rintro ⟨hday, hmonths, hyears, hhours, hminutes, hseconds, hmillis, -⟩
    exact ⟨⟨hyears, hmonths, hday⟩, hhours, hminutes, hseconds, hmillis⟩
  · rintro ⟨⟨hyears, hmonths, hday⟩, hhours, hminutes, hseconds, hmillis⟩
    exact ⟨hday, hmonths, hyears, hhours, hminutes, hseconds, hmillis, List.forall_mem_nil _⟩

theorem dateFormat_eq_iff_fields (uriSyntaxMessage : String → String) :
    (jvm.texts uriSyntaxMessage).dateFormat t = (jvm.texts uriSyntaxMessage).dateFormat t' ↔
      SameDateOfEra (localDate (jvm.wallClock t)) (localDate (jvm.wallClock t')) ∧
        jvm.wallClock t % millisPerHalf = jvm.wallClock t' % millisPerHalf := by
  rw [← date_eq_iff, ← clock_eq_iff]
  exact format_eq_iff_fields (month_mem _) (month_mem _)

/-- One timestamp stands for two instants where they are half a day or two eras apart. -/
theorem dateFormat_eq_iff (uriSyntaxMessage : String → String)
    (h : jvm.offset t = jvm.offset t') :
    (jvm.texts uriSyntaxMessage).dateFormat t = (jvm.texts uriSyntaxMessage).dateFormat t' ↔
      t = t' ∨ jvm.HalfDayApart t t' ∨ jvm.ErasApart t t' := by
  rw [dateFormat_eq_iff_fields]
  constructor
  · rintro ⟨hdate, hclock⟩
    by_cases hera : IsCommonEra (localDate (jvm.wallClock t)) ↔
        IsCommonEra (localDate (jvm.wallClock t'))
    · have hday := day_eq_of_sameDateOfEra hera hdate
      have htimes : t = t' ∨ t' = t + millisPerHalf ∨ t = t' + millisPerHalf := by
        rw [wallClock, wallClock, millisPerHalf] at hclock
        rw [wallClock, wallClock, millisPerDay] at hday
        rw [millisPerHalf]
        omega
      exact htimes.imp_right fun hapart => .inl ⟨hday, hapart⟩
    · exact .inr (.inr ⟨hera, hdate, hclock⟩)
  · rintro (rfl | ⟨hday, hapart⟩ | ⟨-, hdate, hclock⟩)
    · exact ⟨⟨rfl, rfl, rfl⟩, rfl⟩
    · have hdates : localDate (jvm.wallClock t) = localDate (jvm.wallClock t') := by
        rw [localDate, localDate, hday]
      rw [hdates]
      refine ⟨⟨rfl, rfl, rfl⟩, ?_⟩
      rw [wallClock, wallClock, millisPerHalf]
      rw [millisPerHalf] at hapart
      omega
    · exact ⟨hdate, hclock⟩

theorem HalfDayApart.ne (h : jvm.HalfDayApart t t') : t ≠ t' := by
  have hapart := h.2
  rw [millisPerHalf] at hapart
  omega

theorem ErasApart.ne (h : jvm.ErasApart t t') : t ≠ t' := by
  rintro rfl
  exact h.1 Iff.rfl

theorem timestamp_identifies_iff (uriSyntaxMessage : String → String)
    (h : jvm.offset t = jvm.offset t') :
    (ClfEntryBuilder.timestamp (jvm.texts uriSyntaxMessage) t =
        ClfEntryBuilder.timestamp (jvm.texts uriSyntaxMessage) t' → t = t') ↔
      ¬ jvm.HalfDayApart t t' ∧ ¬ jvm.ErasApart t t' := by
  rw [ClfEntryBuilder.timestamp_inj, dateFormat_eq_iff uriSyntaxMessage h]
  constructor
  · intro hidentifies
    exact ⟨fun hhalf => hhalf.ne (hidentifies (.inr (.inl hhalf))),
      fun heras => heras.ne (hidentifies (.inr (.inr heras)))⟩
  · rintro ⟨hhalf, heras⟩ (heq | hhalf' | heras')
    · exact heq
    · exact absurd hhalf' hhalf
    · exact absurd heras' heras

end JvmDefaults

/-- In a period of one offset two timestamps tell their instants apart exactly if these are neither
half a day nor two eras apart, and instants can be read back exactly where no two of them are. -/
theorem ClfEntryBuilder.timestamps_identify_iff (jvm : JvmDefaults)
    (uriSyntaxMessage : String → String) (period : Set ℤ)
    (h : ∀ t ∈ period, ∀ t' ∈ period, jvm.offset t = jvm.offset t') :
    (∀ t ∈ period, ∀ t' ∈ period,
      (timestamp (jvm.texts uriSyntaxMessage) t = timestamp (jvm.texts uriSyntaxMessage) t' →
          t = t') ↔
        ¬ jvm.HalfDayApart t t' ∧ ¬ jvm.ErasApart t t') ∧
      ((∃ parse : String → ℤ, ∀ t ∈ period,
          parse (timestamp (jvm.texts uriSyntaxMessage) t) = t) ↔
        ∀ t ∈ period, ∀ t' ∈ period, ¬ jvm.HalfDayApart t t' ∧ ¬ jvm.ErasApart t t') ∧
      ∀ request result, ∃ front back, ∀ t,
        clfEntry (jvm.texts uriSyntaxMessage) t request result =
          front ++ timestamp (jvm.texts uriSyntaxMessage) t ++ back := by
  have hidentifies : ∀ t ∈ period, ∀ t' ∈ period,
      (timestamp (jvm.texts uriSyntaxMessage) t = timestamp (jvm.texts uriSyntaxMessage) t' →
          t = t') ↔
        ¬ jvm.HalfDayApart t t' ∧ ¬ jvm.ErasApart t t' :=
    fun t ht t' ht' => JvmDefaults.timestamp_identifies_iff uriSyntaxMessage (h t ht t' ht')
  refine ⟨hidentifies, ?_, fun request result => clfEntry_eq _ request result⟩
  constructor
  · rintro ⟨parse, hparse⟩ t ht t' ht'
    refine (hidentifies t ht t' ht').mp fun heq => ?_
    rw [← hparse t ht, heq, hparse t' ht']
  · intro hapart
    have hinj : Set.InjOn (timestamp (jvm.texts uriSyntaxMessage)) period :=
      fun t ht t' ht' => (hidentifies t ht t' ht').mpr (hapart t ht t' ht')
    exact ⟨Function.invFunOn (timestamp (jvm.texts uriSyntaxMessage)) period,
      hinj.leftInvOn_invFunOn⟩

/-! ### Noon and midnight -/

def englishMonths : List String :=
  ["January", "February", "March", "April", "May", "June", "July", "August", "September",
    "October", "November", "December"]

/-- The names of the months in English, of three letters where they are short. -/
def english : Symbols where
  months month := englishMonths.getD (month - 1) ""
  shortMonths month := String.ofList ((englishMonths.getD (month - 1) "").toList.take 3)

theorem english_shortMonths_inj : ∀ i < 12, ∀ j < 12,
    english.shortMonths (i + 1) = english.shortMonths (j + 1) → i = j := by decide

theorem slash_notMem_english (month : ℕ) : '/' ∉ (english.shortMonths month).toList := by
  have hmonths : ∀ name ∈ "" :: englishMonths, '/' ∉ name.toList.take 3 := by decide
  have hmem : englishMonths.getD (month - 1) "" ∈ "" :: englishMonths := by
    rw [List.getD_eq_getElem?_getD]
    cases hget : englishMonths[month - 1]? with
    | none => exact List.mem_cons_self
    | some name => exact List.mem_cons_of_mem _ (List.mem_of_getElem? hget)
  rw [english, String.toList_ofList]
  exact hmonths _ hmem

def utcEnglish : JvmDefaults where
  offset _ := 0
  symbols := english
  shortMonths_inj month month' hmonth hmonth' h := by
    have hpred := english_shortMonths_inj (month - 1) (by omega) (month' - 1) (by omega)
    rw [Nat.sub_add_cancel hmonth.1, Nat.sub_add_cancel hmonth'.1] at hpred
    have heq := hpred h
    omega
  slash_notMem := slash_notMem_english

namespace ClfEntryBuilder

/-- Midnight and noon of 1 September 2014 have one timestamp. -/
theorem noon_reads_as_midnight :
    utcEnglish.offset 1409529600000 = utcEnglish.offset 1409572800000 ∧
      timestamp (utcEnglish.texts id) 1409529600000 = "[01/Sep/2014:12:00:00 +000]" ∧
      timestamp (utcEnglish.texts id) 1409572800000 = "[01/Sep/2014:12:00:00 +000]" ∧
      (1409529600000 : ℤ) ≠ 1409572800000 :=
  ⟨rfl, rfl, rfl, by decide⟩

/-- So have the midnights of a 3 January in the years before and after the eras change. -/
example : utcEnglish.ErasApart (-62167219200000) (-62135596800000) := by decide

/-- The instants from that midnight to that noon. -/
def morning : Set ℤ := {t | 1409529600000 ≤ t ∧ t < 1409572800000}

theorem localDate_of_mem_morning {t : ℤ} (h : t ∈ morning) :
    localDate (utcEnglish.wallClock t) = ⟨2014, 9, 1⟩ := by
  obtain ⟨hfirst, hlast⟩ := h
  have hday : utcEnglish.wallClock t / millisPerDay = 16314 := by
    change (t + 0) / (24 * 60 * 60 * 1000) = 16314
    omega
  rw [localDate, hday]
  rfl

/-- Within a morning the instants can be read back. -/
theorem timestamps_identify_iff_morning :
    ∃ parse : String → ℤ, ∀ t ∈ morning, parse (timestamp (utcEnglish.texts id) t) = t := by
  refine (timestamps_identify_iff utcEnglish id morning fun _ _ _ _ => rfl).2.1.mpr ?_
  intro t ht t' ht'
  constructor
  · rintro ⟨-, hapart⟩
    obtain ⟨hfirst, hlast⟩ := ht
    obtain ⟨hfirst', hlast'⟩ := ht'
    rw [millisPerHalf] at hapart
    omega
  · rintro ⟨heras, -⟩
    rw [localDate_of_mem_morning ht, localDate_of_mem_morning ht'] at heras
    exact heras Iff.rfl

end ClfEntryBuilder

end VehiclesOnline
