/-
Names of characters from U+1D000, most of them signs and pictures.
-/

namespace EntityScaffold.Text.CharacterName

def pictureNames : String := "
  @1D000 BYZANTINE_MUSICAL_SYMBOL_: PSILI DASEIA PERISPOMENI OXEIA_EKFONITIKON OXEIA_DIPLI
  VAREIA_EKFONITIKON VAREIA_DIPLI KATHISTI SYRMATIKI PARAKLITIKI YPOKRISIS YPOKRISIS_DIPLI KREMASTI
  APESO_EKFONITIKON EXO_EKFONITIKON TELEIA KENTIMATA APOSTROFOS APOSTROFOS_DIPLI SYNEVMA THITA
  OLIGON_ARCHAION GORGON_ARCHAION PSILON CHAMILON VATHY ISON_ARCHAION KENTIMA_ARCHAION
  KENTIMATA_ARCHAION SAXIMATA PARICHON STAVROS_APODEXIA OXEIAI_ARCHAION VAREIAI_ARCHAION
  APODERMA_ARCHAION APOTHEMA KLASMA REVMA PIASMA_ARCHAION TINAGMA ANATRICHISMA SEISMA
  SYNAGMA_ARCHAION SYNAGMA_META_STAVROU OYRANISMA_ARCHAION THEMA LEMOI DYO TRIA TESSERA KRATIMATA
  APESO_EXO_NEO FTHORA_ARCHAION IMIFTHORA TROMIKON_ARCHAION KATAVA_TROMIKON PELASTON PSIFISTON
  KONTEVMA CHOREVMA_ARCHAION RAPISMA PARAKALESMA_ARCHAION PARAKLITIKI_ARCHAION ICHADIN NANA PETASMA
  KONTEVMA_ALLO TROMIKON_ALLO STRAGGISMATA GRONTHISMATA ISON_NEO OLIGON_NEO OXEIA_NEO PETASTI
  KOUFISMA PETASTOKOUFISMA KRATIMOKOUFISMA PELASTON_NEO KENTIMATA_NEO_ANO KENTIMA_NEO_ANO YPSILI
  APOSTROFOS_NEO APOSTROFOI_SYNDESMOS_NEO YPORROI KRATIMOYPORROON ELAFRON CHAMILI MIKRON_ISON
  VAREIA_NEO PIASMA_NEO PSIFISTON_NEO OMALON ANTIKENOMA LYGISMA PARAKLITIKI_NEO PARAKALESMA_NEO
  ETERON_PARAKALESMA KYLISMA ANTIKENOKYLISMA TROMIKON_NEO EKSTREPTON SYNAGMA_NEO SYRMA CHOREVMA_NEO
  EPEGERMA SEISMA_NEO XIRON_KLASMA TROMIKOPSIFISTON PSIFISTOLYGISMA TROMIKOLYGISMA
  TROMIKOPARAKALESMA PSIFISTOPARAKALESMA TROMIKOSYNAGMA PSIFISTOSYNAGMA GORGOSYNTHETON
  ARGOSYNTHETON ETERON_ARGOSYNTHETON OYRANISMA_NEO THEMATISMOS_ESO THEMATISMOS_EXO THEMA_APLOUN
  THES_KAI_APOTHES KATAVASMA ENDOFONON YFEN_KATO YFEN_ANO STAVROS KLASMA_ANO DIPLI_ARCHAION
  KRATIMA_ARCHAION KRATIMA_ALLO KRATIMA_NEO APODERMA_NEO APLI DIPLI TRIPLI TETRAPLI KORONIS
  LEIMMA_ENOS_CHRONOU LEIMMA_DYO_CHRONON LEIMMA_TRION_CHRONON LEIMMA_TESSARON_CHRONON
  LEIMMA_IMISEOS_CHRONOU GORGON_NEO_ANO GORGON_PARESTIGMENON_ARISTERA GORGON_PARESTIGMENON_DEXIA
  DIGORGON DIGORGON_PARESTIGMENON_ARISTERA_KATO DIGORGON_PARESTIGMENON_ARISTERA_ANO
  DIGORGON_PARESTIGMENON_DEXIA TRIGORGON ARGON IMIDIARGON DIARGON BYZANTINE_MUSICAL_SYMBOL_AGOGI_:
  POLI_ARGI ARGOTERI ARGI METRIA MESI GORGI GORGOTERI POLI_GORGI
  BYZANTINE_MUSICAL_SYMBOL_MARTYRIA_: PROTOS_ICHOS ALLI_PROTOS_ICHOS DEYTEROS_ICHOS
  ALLI_DEYTEROS_ICHOS TRITOS_ICHOS TRIFONIAS TETARTOS_ICHOS TETARTOS_LEGETOS_ICHOS LEGETOS_ICHOS
  PLAGIOS_ICHOS BYZANTINE_MUSICAL_SYMBOL_: ISAKIA_TELOUS_ICHIMATOS APOSTROFOI_TELOUS_ICHIMATOS
  FANEROSIS_TETRAFONIAS FANEROSIS_MONOFONIAS FANEROSIS_DIFONIAS MARTYRIA_VARYS_ICHOS
  MARTYRIA_PROTOVARYS_ICHOS MARTYRIA_PLAGIOS_TETARTOS_ICHOS GORTHMIKON_N_APLOUN
  GORTHMIKON_N_DIPLOUN ENARXIS_KAI_FTHORA_VOU IMIFONON IMIFTHORON BYZANTINE_MUSICAL_SYMBOL_FTHORA_:
  ARCHAION_DEYTEROU_ICHOU DIATONIKI_PA DIATONIKI_NANA NAOS_ICHOS DIATONIKI_DI SKLIRON_DIATONON_DI
  DIATONIKI_KE DIATONIKI_ZO DIATONIKI_NI_KATO DIATONIKI_NI_ANO MALAKON_CHROMA_DIFONIAS
  MALAKON_CHROMA_MONOFONIAS BYZANTINE_MUSICAL_SYMBOL_: FHTORA_SKLIRON_CHROMA_VASIS
  FTHORA_SKLIRON_CHROMA_SYNAFI FTHORA_NENANO CHROA_ZYGOS CHROA_KLITON CHROA_SPATHI
  FTHORA_I_YFESIS_TETARTIMORION FTHORA_ENARMONIOS_ANTIFONIA YFESIS_TRITIMORION DIESIS_TRITIMORION
  DIESIS_TETARTIMORION DIESIS_APLI_DYO_DODEKATA DIESIS_MONOGRAMMOS_TESSERA_DODEKATA
  DIESIS_DIGRAMMOS_EX_DODEKATA DIESIS_TRIGRAMMOS_OKTO_DODEKATA YFESIS_APLI_DYO_DODEKATA
  YFESIS_MONOGRAMMOS_TESSERA_DODEKATA YFESIS_DIGRAMMOS_EX_DODEKATA YFESIS_TRIGRAMMOS_OKTO_DODEKATA
  GENIKI_DIESIS GENIKI_YFESIS DIASTOLI_APLI_MIKRI DIASTOLI_APLI_MEGALI DIASTOLI_DIPLI
  DIASTOLI_THESEOS BYZANTINE_MUSICAL_SYMBOL_SIMANSIS_: THESEOS THESEOS_DISIMOU THESEOS_TRISIMOU
  THESEOS_TETRASIMOU ARSEOS ARSEOS_DISIMOU ARSEOS_TRISIMOU ARSEOS_TETRASIMOU
  BYZANTINE_MUSICAL_SYMBOL_: DIGRAMMA_GG DIFTOGGOS_OU STIGMA ARKTIKO_PA ARKTIKO_VOU ARKTIKO_GA
  ARKTIKO_DI ARKTIKO_KE ARKTIKO_ZO ARKTIKO_NI KENTIMATA_NEO_MESO KENTIMA_NEO_MESO
  KENTIMATA_NEO_KATO KENTIMA_NEO_KATO KLASMA_KATO GORGON_NEO_KATO @1D100 MUSICAL_SYMBOL_:
  SINGLE_BARLINE DOUBLE_BARLINE FINAL_BARLINE REVERSE_FINAL_BARLINE DASHED_BARLINE SHORT_BARLINE
  LEFT_REPEAT_SIGN RIGHT_REPEAT_SIGN REPEAT_DOTS DAL_SEGNO DA_CAPO SEGNO CODA REPEATED_FIGURE-1
  REPEATED_FIGURE-2 REPEATED_FIGURE-3 FERMATA FERMATA_BELOW BREATH_MARK CAESURA BRACE BRACKET
  ONE-LINE_STAFF TWO-LINE_STAFF THREE-LINE_STAFF FOUR-LINE_STAFF FIVE-LINE_STAFF SIX-LINE_STAFF
  SIX-STRING_FRETBOARD FOUR-STRING_FRETBOARD G_CLEF G_CLEF_OTTAVA_ALTA G_CLEF_OTTAVA_BASSA C_CLEF
  F_CLEF F_CLEF_OTTAVA_ALTA F_CLEF_OTTAVA_BASSA DRUM_CLEF-1 DRUM_CLEF-2 @1D129
  MULTIPLE_MEASURE_REST DOUBLE_SHARP DOUBLE_FLAT FLAT_UP FLAT_DOWN NATURAL_UP NATURAL_DOWN SHARP_UP
  SHARP_DOWN QUARTER_TONE_SHARP QUARTER_TONE_FLAT COMMON_TIME CUT_TIME OTTAVA_ALTA OTTAVA_BASSA
  QUINDICESIMA_ALTA QUINDICESIMA_BASSA MULTI_REST WHOLE_REST HALF_REST QUARTER_REST EIGHTH_REST
  SIXTEENTH_REST THIRTY-SECOND_REST SIXTY-FOURTH_REST ONE_HUNDRED_TWENTY-EIGHTH_REST X_NOTEHEAD
  PLUS_NOTEHEAD CIRCLE_X_NOTEHEAD SQUARE_NOTEHEAD_WHITE SQUARE_NOTEHEAD_BLACK
  MUSICAL_SYMBOL_TRIANGLE_NOTEHEAD_: UP_WHITE UP_BLACK LEFT_WHITE LEFT_BLACK RIGHT_WHITE
  RIGHT_BLACK DOWN_WHITE DOWN_BLACK UP_RIGHT_WHITE UP_RIGHT_BLACK MUSICAL_SYMBOL_MOON_NOTEHEAD_:
  WHITE BLACK MUSICAL_SYMBOL_TRIANGLE-ROUND_NOTEHEAD_DOWN_: WHITE BLACK MUSICAL_SYMBOL_:
  PARENTHESIS_NOTEHEAD VOID_NOTEHEAD NOTEHEAD_BLACK NULL_NOTEHEAD CLUSTER_NOTEHEAD_WHITE
  CLUSTER_NOTEHEAD_BLACK BREVE WHOLE_NOTE HALF_NOTE QUARTER_NOTE EIGHTH_NOTE SIXTEENTH_NOTE
  THIRTY-SECOND_NOTE SIXTY-FOURTH_NOTE ONE_HUNDRED_TWENTY-EIGHTH_NOTE MUSICAL_SYMBOL_COMBINING_:
  STEM SPRECHGESANG_STEM TREMOLO-1 TREMOLO-2 TREMOLO-3 MUSICAL_SYMBOL_FINGERED_TREMOLO-: 1 2 3
  MUSICAL_SYMBOL_COMBINING_: AUGMENTATION_DOT FLAG-1 FLAG-2 FLAG-3 FLAG-4 FLAG-5 MUSICAL_SYMBOL_:
  BEGIN_BEAM END_BEAM BEGIN_TIE END_TIE BEGIN_SLUR END_SLUR BEGIN_PHRASE END_PHRASE
  MUSICAL_SYMBOL_COMBINING_: ACCENT STACCATO TENUTO STACCATISSIMO MARCATO MARCATO-STACCATO
  ACCENT-STACCATO LOURE MUSICAL_SYMBOL_ARPEGGIATO_: UP DOWN MUSICAL_SYMBOL_COMBINING_: DOIT RIP
  FLIP SMEAR BEND DOUBLE_TONGUE TRIPLE_TONGUE MUSICAL_SYMBOL_: RINFORZANDO SUBITO Z PIANO MEZZO
  FORTE CRESCENDO DECRESCENDO GRACE_NOTE_SLASH GRACE_NOTE_NO_SLASH TR TURN INVERTED_TURN TURN_SLASH
  TURN_UP MUSICAL_SYMBOL_ORNAMENT_STROKE-: 1 2 3 4 5 6 7 8 9 10 11 MUSICAL_SYMBOL_: HAUPTSTIMME
  NEBENSTIMME END_OF_STIMME DEGREE_SLASH COMBINING_DOWN_BOW COMBINING_UP_BOW COMBINING_HARMONIC
  COMBINING_SNAP_PIZZICATO PEDAL_MARK PEDAL_UP_MARK HALF_PEDAL_MARK GLISSANDO_UP GLISSANDO_DOWN
  WITH_FINGERNAILS DAMP DAMP_ALL MAXIMA LONGA BREVIS SEMIBREVIS_WHITE SEMIBREVIS_BLACK MINIMA
  MINIMA_BLACK SEMIMINIMA_WHITE SEMIMINIMA_BLACK FUSA_WHITE FUSA_BLACK LONGA_PERFECTA_REST
  LONGA_IMPERFECTA_REST BREVIS_REST SEMIBREVIS_REST MINIMA_REST SEMIMINIMA_REST
  MUSICAL_SYMBOL_TEMPUS_PERFECTUM_CUM_PROLATIONE_: PERFECTA IMPERFECTA PERFECTA_DIMINUTION-1
  MUSICAL_SYMBOL_TEMPUS_IMPERFECTUM_CUM_PROLATIONE_: PERFECTA IMPERFECTA IMPERFECTA_DIMINUTION-1
  IMPERFECTA_DIMINUTION-2 IMPERFECTA_DIMINUTION-3 MUSICAL_SYMBOL_: CROIX GREGORIAN_C_CLEF
  GREGORIAN_F_CLEF SQUARE_B VIRGA PODATUS CLIVIS SCANDICUS CLIMACUS TORCULUS PORRECTUS
  PORRECTUS_FLEXUS SCANDICUS_FLEXUS TORCULUS_RESUPINUS PES_SUBPUNCTIS MUSICAL_SYMBOL_KIEVAN_:
  C_CLEF END_OF_PIECE FINAL_NOTE RECITATIVE_MARK WHOLE_NOTE HALF_NOTE QUARTER_NOTE_STEM_DOWN
  QUARTER_NOTE_STEM_UP EIGHTH_NOTE_STEM_DOWN EIGHTH_NOTE_STEM_UP FLAT_SIGN MUSICAL_SYMBOL_: SORI
  KORON @1D200 GREEK_VOCAL_NOTATION_SYMBOL-: 1 2 3 4 5 6 7 8 9 10 11 12 13 14 15 16 17 18 19 20 21
  22 23 24 50 51 52 53 54 GREEK_INSTRUMENTAL_NOTATION_SYMBOL-: 1 2 4 5 7 8 11 12 13 14 17 18 19 23
  24 25 26 27 29 30 32 36 37 38 39 40 42 43 45 47 48 49 50 51 52 53 54 COMBINING_GREEK_MUSICAL_:
  TRISEME TETRASEME PENTASEME GREEK_MUSICAL_: LEIMMA @1D2E0 MAYAN_NUMERAL_: ZERO ONE TWO THREE FOUR
  FIVE SIX SEVEN EIGHT NINE TEN ELEVEN TWELVE THIRTEEN FOURTEEN FIFTEEN SIXTEEN SEVENTEEN EIGHTEEN
  NINETEEN @1D300 MONOGRAM_FOR_: EARTH DIGRAM_FOR_: HEAVENLY_EARTH HUMAN_EARTH EARTHLY_HEAVEN
  EARTHLY_HUMAN EARTH TETRAGRAM_FOR_: CENTRE FULL_CIRCLE MIRED BARRIER KEEPING_SMALL CONTRARIETY
  ASCENT OPPOSITION BRANCHING_OUT DEFECTIVENESS_OR_DISTORTION DIVERGENCE YOUTHFULNESS INCREASE
  PENETRATION REACH CONTACT HOLDING_BACK WAITING FOLLOWING ADVANCE RELEASE RESISTANCE EASE JOY
  CONTENTION ENDEAVOUR DUTIES CHANGE DECISIVENESS BOLD_RESOLUTION PACKING LEGION CLOSENESS KINSHIP
  GATHERING STRENGTH PURITY FULLNESS RESIDENCE LAW_OR_MODEL RESPONSE GOING_TO_MEET ENCOUNTERS STOVE
  GREATNESS ENLARGEMENT PATTERN RITUAL FLIGHT VASTNESS_OR_WASTING CONSTANCY MEASURE ETERNITY UNITY
  DIMINISHMENT CLOSED_MOUTH GUARDEDNESS GATHERING_IN MASSING ACCUMULATION EMBELLISHMENT DOUBT WATCH
  SINKING INNER DEPARTURE DARKENING DIMMING EXHAUSTION SEVERANCE STOPPAGE HARDNESS COMPLETION
  CLOSURE FAILURE AGGRAVATION COMPLIANCE ON_THE_VERGE DIFFICULTIES LABOURING FOSTERING @1D360
  COUNTING_ROD_UNIT_DIGIT_: ONE TWO THREE FOUR FIVE SIX SEVEN EIGHT NINE COUNTING_ROD_TENS_DIGIT_:
  ONE TWO THREE FOUR FIVE SIX SEVEN EIGHT NINE IDEOGRAPHIC_TALLY_MARK_: ONE TWO THREE FOUR FIVE
  TALLY_MARK_: ONE FIVE @1D400 MATHEMATICAL_BOLD_CAPITAL_: A B C D E F G H I J K L M N O P Q R S T
  U V W X Y Z MATHEMATICAL_BOLD_SMALL_: A B C D E F G H I J K L M N O P Q R S T U V W X Y Z
  MATHEMATICAL_ITALIC_CAPITAL_: A B C D E F G H I J K L M N O P Q R S T U V W X Y Z
  MATHEMATICAL_ITALIC_SMALL_: A B C D E F G @1D456 I J K L M N O P Q R S T U V W X Y Z
  MATHEMATICAL_BOLD_ITALIC_CAPITAL_: A B C D E F G H I J K L M N O P Q R S T U V W X Y Z
  MATHEMATICAL_BOLD_ITALIC_SMALL_: A B C D E F G H I J K L M N O P Q R S T U V W X Y Z
  MATHEMATICAL_SCRIPT_CAPITAL_: A @1D49E C D @1D4A2 G @1D4A5 J K @1D4A9 N O P Q @1D4AE S T U V W X
  Y Z MATHEMATICAL_SCRIPT_SMALL_: A B C D @1D4BB F @1D4BD H I J K L M N @1D4C5 P Q R S T U V W X Y
  Z MATHEMATICAL_BOLD_SCRIPT_CAPITAL_: A B C D E F G H I J K L M N O P Q R S T U V W X Y Z
  MATHEMATICAL_BOLD_SCRIPT_SMALL_: A B C D E F G H I J K L M N O P Q R S T U V W X Y Z
  MATHEMATICAL_FRAKTUR_CAPITAL_: A B @1D507 D E F G @1D50D J K L M N O P Q @1D516 S T U V W X Y
  @1D51E MATHEMATICAL_FRAKTUR_SMALL_: A B C D E F G H I J K L M N O P Q R S T U V W X Y Z
  MATHEMATICAL_DOUBLE-STRUCK_CAPITAL_: A B @1D53B D E F G @1D540 I J K L M @1D546 O @1D54A S T U V
  W X Y @1D552 MATHEMATICAL_DOUBLE-STRUCK_SMALL_: A B C D E F G H I J K L M N O P Q R S T U V W X Y
  Z MATHEMATICAL_BOLD_FRAKTUR_CAPITAL_: A B C D E F G H I J K L M N O P Q R S T U V W X Y Z
  MATHEMATICAL_BOLD_FRAKTUR_SMALL_: A B C D E F G H I J K L M N O P Q R S T U V W X Y Z
  MATHEMATICAL_SANS-SERIF_CAPITAL_: A B C D E F G H I J K L M N O P Q R S T U V W X Y Z
  MATHEMATICAL_SANS-SERIF_SMALL_: A B C D E F G H I J K L M N O P Q R S T U V W X Y Z
  MATHEMATICAL_SANS-SERIF_BOLD_CAPITAL_: A B C D E F G H I J K L M N O P Q R S T U V W X Y Z
  MATHEMATICAL_SANS-SERIF_BOLD_SMALL_: A B C D E F G H I J K L M N O P Q R S T U V W X Y Z
  MATHEMATICAL_SANS-SERIF_ITALIC_CAPITAL_: A B C D E F G H I J K L M N O P Q R S T U V W X Y Z
  MATHEMATICAL_SANS-SERIF_ITALIC_SMALL_: A B C D E F G H I J K L M N O P Q R S T U V W X Y Z
  MATHEMATICAL_SANS-SERIF_BOLD_ITALIC_CAPITAL_: A B C D E F G H I J K L M N O P Q R S T U V W X Y Z
  MATHEMATICAL_SANS-SERIF_BOLD_ITALIC_SMALL_: A B C D E F G H I J K L M N O P Q R S T U V W X Y Z
  MATHEMATICAL_MONOSPACE_CAPITAL_: A B C D E F G H I J K L M N O P Q R S T U V W X Y Z
  MATHEMATICAL_MONOSPACE_SMALL_: A B C D E F G H I J K L M N O P Q R S T U V W X Y Z
  MATHEMATICAL_ITALIC_SMALL_DOTLESS_: I J @1D6A8 MATHEMATICAL_BOLD_CAPITAL_: ALPHA BETA GAMMA DELTA
  EPSILON ZETA ETA THETA IOTA KAPPA LAMDA MU NU XI OMICRON PI RHO THETA_SYMBOL SIGMA TAU UPSILON
  PHI CHI PSI OMEGA MATHEMATICAL_BOLD_: NABLA MATHEMATICAL_BOLD_SMALL_: ALPHA BETA GAMMA DELTA
  EPSILON ZETA ETA THETA IOTA KAPPA LAMDA MU NU XI OMICRON PI RHO FINAL_SIGMA SIGMA TAU UPSILON PHI
  CHI PSI OMEGA MATHEMATICAL_BOLD_: PARTIAL_DIFFERENTIAL EPSILON_SYMBOL THETA_SYMBOL KAPPA_SYMBOL
  PHI_SYMBOL RHO_SYMBOL PI_SYMBOL MATHEMATICAL_ITALIC_CAPITAL_: ALPHA BETA GAMMA DELTA EPSILON ZETA
  ETA THETA IOTA KAPPA LAMDA MU NU XI OMICRON PI RHO THETA_SYMBOL SIGMA TAU UPSILON PHI CHI PSI
  OMEGA MATHEMATICAL_ITALIC_: NABLA MATHEMATICAL_ITALIC_SMALL_: ALPHA BETA GAMMA DELTA EPSILON ZETA
  ETA THETA IOTA KAPPA LAMDA MU NU XI OMICRON PI RHO FINAL_SIGMA SIGMA TAU UPSILON PHI CHI PSI
  OMEGA MATHEMATICAL_ITALIC_: PARTIAL_DIFFERENTIAL EPSILON_SYMBOL THETA_SYMBOL KAPPA_SYMBOL
  PHI_SYMBOL RHO_SYMBOL PI_SYMBOL MATHEMATICAL_BOLD_ITALIC_CAPITAL_: ALPHA BETA GAMMA DELTA EPSILON
  ZETA ETA THETA IOTA KAPPA LAMDA MU NU XI OMICRON PI RHO THETA_SYMBOL SIGMA TAU UPSILON PHI CHI
  PSI OMEGA MATHEMATICAL_BOLD_ITALIC_: NABLA MATHEMATICAL_BOLD_ITALIC_SMALL_: ALPHA BETA GAMMA
  DELTA EPSILON ZETA ETA THETA IOTA KAPPA LAMDA MU NU XI OMICRON PI RHO FINAL_SIGMA SIGMA TAU
  UPSILON PHI CHI PSI OMEGA MATHEMATICAL_BOLD_ITALIC_: PARTIAL_DIFFERENTIAL EPSILON_SYMBOL
  THETA_SYMBOL KAPPA_SYMBOL PHI_SYMBOL RHO_SYMBOL PI_SYMBOL MATHEMATICAL_SANS-SERIF_BOLD_CAPITAL_:
  ALPHA BETA GAMMA DELTA EPSILON ZETA ETA THETA IOTA KAPPA LAMDA MU NU XI OMICRON PI RHO
  THETA_SYMBOL SIGMA TAU UPSILON PHI CHI PSI OMEGA MATHEMATICAL_SANS-SERIF_BOLD_: NABLA
  MATHEMATICAL_SANS-SERIF_BOLD_SMALL_: ALPHA BETA GAMMA DELTA EPSILON ZETA ETA THETA IOTA KAPPA
  LAMDA MU NU XI OMICRON PI RHO FINAL_SIGMA SIGMA TAU UPSILON PHI CHI PSI OMEGA
  MATHEMATICAL_SANS-SERIF_BOLD_: PARTIAL_DIFFERENTIAL EPSILON_SYMBOL THETA_SYMBOL KAPPA_SYMBOL
  PHI_SYMBOL RHO_SYMBOL PI_SYMBOL MATHEMATICAL_SANS-SERIF_BOLD_ITALIC_CAPITAL_: ALPHA BETA GAMMA
  DELTA EPSILON ZETA ETA THETA IOTA KAPPA LAMDA MU NU XI OMICRON PI RHO THETA_SYMBOL SIGMA TAU
  UPSILON PHI CHI PSI OMEGA MATHEMATICAL_SANS-SERIF_BOLD_ITALIC_: NABLA
  MATHEMATICAL_SANS-SERIF_BOLD_ITALIC_SMALL_: ALPHA BETA GAMMA DELTA EPSILON ZETA ETA THETA IOTA
  KAPPA LAMDA MU NU XI OMICRON PI RHO FINAL_SIGMA SIGMA TAU UPSILON PHI CHI PSI OMEGA
  MATHEMATICAL_SANS-SERIF_BOLD_ITALIC_: PARTIAL_DIFFERENTIAL EPSILON_SYMBOL THETA_SYMBOL
  KAPPA_SYMBOL PHI_SYMBOL RHO_SYMBOL PI_SYMBOL MATHEMATICAL_BOLD_: CAPITAL_DIGAMMA SMALL_DIGAMMA
  @1D7CE MATHEMATICAL_BOLD_DIGIT_: ZERO ONE TWO THREE FOUR FIVE SIX SEVEN EIGHT NINE
  MATHEMATICAL_DOUBLE-STRUCK_DIGIT_: ZERO ONE TWO THREE FOUR FIVE SIX SEVEN EIGHT NINE
  MATHEMATICAL_SANS-SERIF_DIGIT_: ZERO ONE TWO THREE FOUR FIVE SIX SEVEN EIGHT NINE
  MATHEMATICAL_SANS-SERIF_BOLD_DIGIT_: ZERO ONE TWO THREE FOUR FIVE SIX SEVEN EIGHT NINE
  MATHEMATICAL_MONOSPACE_DIGIT_: ZERO ONE TWO THREE FOUR FIVE SIX SEVEN EIGHT NINE
  SIGNWRITING_HAND-: FIST_INDEX CIRCLE_INDEX CUP_INDEX OVAL_INDEX HINGE_INDEX ANGLE_INDEX
  FIST_INDEX_BENT CIRCLE_INDEX_BENT FIST_THUMB_UNDER_INDEX_BENT FIST_INDEX_RAISED_KNUCKLE
  FIST_INDEX_CUPPED FIST_INDEX_HINGED FIST_INDEX_HINGED_LOW CIRCLE_INDEX_HINGE FIST_INDEX_MIDDLE
  CIRCLE_INDEX_MIDDLE SIGNWRITING_HAND-FIST_INDEX_: MIDDLE_BENT MIDDLE_RAISED_KNUCKLES
  MIDDLE_HINGED UP_MIDDLE_HINGED HINGED_MIDDLE_UP MIDDLE_CONJOINED
  SIGNWRITING_HAND-FIST_INDEX_MIDDLE_CONJOINED_: INDEX_BENT MIDDLE_BENT CUPPED HINGED
  SIGNWRITING_HAND-: FIST_INDEX_MIDDLE_CROSSED CIRCLE_INDEX_MIDDLE_CROSSED
  FIST_MIDDLE_BENT_OVER_INDEX FIST_INDEX_BENT_OVER_MIDDLE FIST_INDEX_MIDDLE_THUMB
  CIRCLE_INDEX_MIDDLE_THUMB SIGNWRITING_HAND-FIST_INDEX_: MIDDLE_STRAIGHT_THUMB_BENT
  MIDDLE_BENT_THUMB_STRAIGHT MIDDLE_THUMB_BENT MIDDLE_HINGED_SPREAD_THUMB_SIDE
  UP_MIDDLE_HINGED_THUMB_SIDE UP_MIDDLE_HINGED_THUMB_CONJOINED HINGED_MIDDLE_UP_THUMB_SIDE
  MIDDLE_UP_SPREAD_THUMB_FORWARD SIGNWRITING_HAND-FIST_INDEX_MIDDLE_THUMB_: CUPPED CIRCLED HOOKED
  HINGED SIGNWRITING_HAND-FIST_THUMB_BETWEEN_INDEX_MIDDLE_: STRAIGHT
  SIGNWRITING_HAND-FIST_INDEX_MIDDLE_CONJOINED_THUMB_: SIDE SIDE_CONJOINED SIDE_BENT
  SIGNWRITING_HAND-FIST_: MIDDLE_THUMB_HOOKED_INDEX_UP INDEX_THUMB_HOOKED_MIDDLE_UP
  INDEX_MIDDLE_CONJOINED_HINGED_THUMB_SIDE INDEX_MIDDLE_CROSSED_THUMB_SIDE
  INDEX_MIDDLE_CONJOINED_THUMB_FORWARD INDEX_MIDDLE_CONJOINED_CUPPED_THUMB_FORWARD
  MIDDLE_THUMB_CUPPED_INDEX_UP INDEX_THUMB_CUPPED_MIDDLE_UP
  SIGNWRITING_HAND-FIST_MIDDLE_THUMB_CIRCLED_INDEX_: UP HINGED SIGNWRITING_HAND-FIST_INDEX_THUMB_:
  ANGLED_OUT_MIDDLE_UP ANGLED_IN_MIDDLE_UP CIRCLED_MIDDLE_UP
  SIGNWRITING_HAND-FIST_INDEX_MIDDLE_THUMB_: CONJOINED_HINGED ANGLED_OUT ANGLED
  SIGNWRITING_HAND-FIST_MIDDLE_THUMB_ANGLED_: OUT_INDEX_UP OUT_INDEX_CROSSED INDEX_UP
  SIGNWRITING_HAND-: FIST_INDEX_THUMB_HOOKED_MIDDLE_HINGED FLAT_FOUR_FINGERS
  SIGNWRITING_HAND-FLAT_FOUR_FINGERS_: BENT HINGED CONJOINED CONJOINED_SPLIT SIGNWRITING_HAND-:
  CLAW_FOUR_FINGERS_CONJOINED FIST_FOUR_FINGERS_CONJOINED_BENT HINGE_FOUR_FINGERS_CONJOINED
  FLAT_FIVE_FINGERS_SPREAD FLAT_HEEL_FIVE_FINGERS_SPREAD FLAT_FIVE_FINGERS_SPREAD_FOUR_BENT
  FLAT_HEEL_FIVE_FINGERS_SPREAD_FOUR_BENT FLAT_FIVE_FINGERS_SPREAD_BENT
  FLAT_HEEL_FIVE_FINGERS_SPREAD_BENT FLAT_FIVE_FINGERS_SPREAD_THUMB_FORWARD CUP_FIVE_FINGERS_SPREAD
  CUP_FIVE_FINGERS_SPREAD_OPEN HINGE_FIVE_FINGERS_SPREAD_OPEN OVAL_FIVE_FINGERS_SPREAD
  SIGNWRITING_HAND-FLAT_FIVE_FINGERS_SPREAD_: HINGED HINGED_THUMB_SIDE HINGED_NO_THUMB
  SIGNWRITING_HAND-: FLAT SIGNWRITING_HAND-FLAT_: BETWEEN_PALM_FACINGS HEEL THUMB_SIDE
  HEEL_THUMB_SIDE THUMB_BENT THUMB_FORWARD SPLIT_INDEX_THUMB_SIDE SPLIT_CENTRE
  SPLIT_CENTRE_THUMB_SIDE SPLIT_CENTRE_THUMB_SIDE_BENT SPLIT_LITTLE SIGNWRITING_HAND-: CLAW
  CLAW_THUMB_SIDE CLAW_NO_THUMB CLAW_THUMB_FORWARD HOOK_CURLICUE HOOK CUP_OPEN CUP
  CUP_OPEN_THUMB_SIDE CUP_THUMB_SIDE CUP_OPEN_NO_THUMB CUP_NO_THUMB CUP_OPEN_THUMB_FORWARD
  CUP_THUMB_FORWARD CURLICUE_OPEN CURLICUE CIRCLE OVAL OVAL_THUMB_SIDE OVAL_NO_THUMB
  OVAL_THUMB_FORWARD HINGE_OPEN HINGE_OPEN_THUMB_FORWARD HINGE HINGE_SMALL HINGE_OPEN_THUMB_SIDE
  HINGE_THUMB_SIDE HINGE_OPEN_NO_THUMB HINGE_NO_THUMB HINGE_THUMB_SIDE_TOUCHING_INDEX
  HINGE_THUMB_BETWEEN_MIDDLE_RING ANGLE FIST_INDEX_MIDDLE_RING CIRCLE_INDEX_MIDDLE_RING
  HINGE_INDEX_MIDDLE_RING ANGLE_INDEX_MIDDLE_RING HINGE_LITTLE FIST_INDEX_MIDDLE_RING_BENT
  FIST_INDEX_MIDDLE_RING_CONJOINED HINGE_INDEX_MIDDLE_RING_CONJOINED SIGNWRITING_HAND-FIST_LITTLE_:
  DOWN DOWN_RIPPLE_STRAIGHT DOWN_RIPPLE_CURVED DOWN_OTHERS_CIRCLED UP SIGNWRITING_HAND-:
  FIST_THUMB_UNDER_LITTLE_UP CIRCLE_LITTLE_UP OVAL_LITTLE_UP ANGLE_LITTLE_UP
  FIST_LITTLE_RAISED_KNUCKLE FIST_LITTLE_BENT FIST_LITTLE_TOUCHES_THUMB FIST_LITTLE_THUMB
  HINGE_LITTLE_THUMB FIST_LITTLE_INDEX_THUMB HINGE_LITTLE_INDEX_THUMB
  ANGLE_LITTLE_INDEX_THUMB_INDEX_THUMB_OUT ANGLE_LITTLE_INDEX_THUMB_INDEX_THUMB FIST_LITTLE_INDEX
  CIRCLE_LITTLE_INDEX HINGE_LITTLE_INDEX ANGLE_LITTLE_INDEX FIST_INDEX_MIDDLE_LITTLE
  CIRCLE_INDEX_MIDDLE_LITTLE HINGE_INDEX_MIDDLE_LITTLE HINGE_RING ANGLE_INDEX_MIDDLE_LITTLE
  FIST_INDEX_MIDDLE_CROSS_LITTLE CIRCLE_INDEX_MIDDLE_CROSS_LITTLE FIST_RING_DOWN
  HINGE_RING_DOWN_INDEX_THUMB_HOOK_MIDDLE ANGLE_RING_DOWN_MIDDLE_THUMB_INDEX_CROSS FIST_RING_UP
  FIST_RING_RAISED_KNUCKLE FIST_RING_LITTLE CIRCLE_RING_LITTLE OVAL_RING_LITTLE ANGLE_RING_LITTLE
  SIGNWRITING_HAND-FIST_RING_: MIDDLE MIDDLE_CONJOINED MIDDLE_RAISED_KNUCKLES INDEX THUMB
  SIGNWRITING_HAND-: HOOK_RING_THUMB FIST_INDEX_RING_LITTLE CIRCLE_INDEX_RING_LITTLE
  CURLICUE_INDEX_RING_LITTLE_ON SIGNWRITING_HAND-HOOK_INDEX_RING_LITTLE_: OUT IN UNDER
  SIGNWRITING_HAND-: CUP_INDEX_RING_LITTLE HINGE_INDEX_RING_LITTLE ANGLE_INDEX_RING_LITTLE_OUT
  ANGLE_INDEX_RING_LITTLE FIST_MIDDLE_DOWN HINGE_MIDDLE FIST_MIDDLE_UP CIRCLE_MIDDLE_UP
  FIST_MIDDLE_RAISED_KNUCKLE FIST_MIDDLE_UP_THUMB_SIDE HOOK_MIDDLE_THUMB FIST_MIDDLE_THUMB_LITTLE
  FIST_MIDDLE_LITTLE FIST_MIDDLE_RING_LITTLE CIRCLE_MIDDLE_RING_LITTLE
  CURLICUE_MIDDLE_RING_LITTLE_ON CUP_MIDDLE_RING_LITTLE HINGE_MIDDLE_RING_LITTLE
  ANGLE_MIDDLE_RING_LITTLE_OUT ANGLE_MIDDLE_RING_LITTLE_IN ANGLE_MIDDLE_RING_LITTLE
  CIRCLE_MIDDLE_RING_LITTLE_BENT SIGNWRITING_HAND-CLAW_MIDDLE_RING_LITTLE_: CONJOINED
  CONJOINED_SIDE SIGNWRITING_HAND-HOOK_MIDDLE_RING_LITTLE_: CONJOINED_OUT CONJOINED_IN CONJOINED
  SIGNWRITING_HAND-: HINGE_INDEX_HINGED FIST_INDEX_THUMB_SIDE HINGE_INDEX_THUMB_SIDE
  SIGNWRITING_HAND-FIST_INDEX_THUMB_: SIDE_THUMB_DIAGONAL SIDE_THUMB_CONJOINED SIDE_THUMB_BENT
  SIDE_INDEX_BENT SIDE_BOTH_BENT SIDE_INDEX_HINGE FORWARD_INDEX_STRAIGHT FORWARD_INDEX_BENT HOOK
  CURLICUE CURVE_THUMB_INSIDE SIGNWRITING_HAND-: CLAW_INDEX_THUMB_CURVE_THUMB_INSIDE
  FIST_INDEX_THUMB_CURVE_THUMB_UNDER FIST_INDEX_THUMB_CIRCLE CUP_INDEX_THUMB CUP_INDEX_THUMB_OPEN
  SIGNWRITING_HAND-HINGE_INDEX_: THUMB_OPEN THUMB_LARGE THUMB THUMB_SMALL
  SIGNWRITING_HAND-ANGLE_INDEX_: THUMB_OUT THUMB_IN THUMB SIGNWRITING_HAND-FIST_: THUMB
  SIGNWRITING_HAND-FIST_THUMB_: HEEL SIDE_DIAGONAL SIDE_CONJOINED SIDE_BENT FORWARD
  BETWEEN_INDEX_MIDDLE BETWEEN_MIDDLE_RING BETWEEN_RING_LITTLE UNDER_TWO_FINGERS OVER_TWO_FINGERS
  UNDER_THREE_FINGERS UNDER_FOUR_FINGERS OVER_FOUR_RAISED_KNUCKLES SIGNWRITING_: HAND-FIST
  HAND-FIST_HEEL TOUCH_SINGLE TOUCH_MULTIPLE TOUCH_BETWEEN GRASP_SINGLE GRASP_MULTIPLE
  GRASP_BETWEEN STRIKE_SINGLE STRIKE_MULTIPLE STRIKE_BETWEEN BRUSH_SINGLE BRUSH_MULTIPLE
  BRUSH_BETWEEN RUB_SINGLE RUB_MULTIPLE RUB_BETWEEN SURFACE_SYMBOLS SURFACE_BETWEEN
  SIGNWRITING_SQUEEZE_: LARGE_SINGLE SMALL_SINGLE LARGE_MULTIPLE SMALL_MULTIPLE SEQUENTIAL
  SIGNWRITING_FLICK_: LARGE_SINGLE SMALL_SINGLE LARGE_MULTIPLE SMALL_MULTIPLE SEQUENTIAL
  SIGNWRITING_SQUEEZE_FLICK_: ALTERNATING SIGNWRITING_MOVEMENT-HINGE_: UP_DOWN_LARGE UP_DOWN_SMALL
  UP_SEQUENTIAL DOWN_SEQUENTIAL UP_DOWN_ALTERNATING_LARGE UP_DOWN_ALTERNATING_SMALL
  SIDE_TO_SIDE_SCISSORS SIGNWRITING_MOVEMENT-: WALLPLANE_FINGER_CONTACT FLOORPLANE_FINGER_CONTACT
  SIGNWRITING_MOVEMENT-WALLPLANE_SINGLE_STRAIGHT_: SMALL MEDIUM LARGE LARGEST
  SIGNWRITING_MOVEMENT-WALLPLANE_: SINGLE_WRIST_FLEX DOUBLE_STRAIGHT DOUBLE_WRIST_FLEX
  DOUBLE_ALTERNATING DOUBLE_ALTERNATING_WRIST_FLEX CROSS TRIPLE_STRAIGHT_MOVEMENT TRIPLE_WRIST_FLEX
  TRIPLE_ALTERNATING TRIPLE_ALTERNATING_WRIST_FLEX BEND_SMALL BEND_MEDIUM BEND_LARGE CORNER_SMALL
  CORNER_MEDIUM CORNER_LARGE CORNER_ROTATION CHECK_SMALL CHECK_MEDIUM CHECK_LARGE BOX_SMALL
  BOX_MEDIUM BOX_LARGE ZIGZAG_SMALL ZIGZAG_MEDIUM ZIGZAG_LARGE PEAKS_SMALL PEAKS_MEDIUM PEAKS_LARGE
  SIGNWRITING_TRAVEL-WALLPLANE_ROTATION-WALLPLANE_: SINGLE DOUBLE ALTERNATING
  SIGNWRITING_TRAVEL-WALLPLANE_ROTATION-FLOORPLANE_: SINGLE DOUBLE ALTERNATING
  SIGNWRITING_TRAVEL-WALLPLANE_: SHAKING ARM_SPIRAL_SINGLE ARM_SPIRAL_DOUBLE ARM_SPIRAL_TRIPLE
  SIGNWRITING_MOVEMENT-DIAGONAL_AWAY_: SMALL MEDIUM LARGE LARGEST
  SIGNWRITING_MOVEMENT-DIAGONAL_TOWARDS_: SMALL MEDIUM LARGE LARGEST
  SIGNWRITING_MOVEMENT-DIAGONAL_BETWEEN_: AWAY_SMALL AWAY_MEDIUM AWAY_LARGE AWAY_LARGEST
  TOWARDS_SMALL TOWARDS_MEDIUM TOWARDS_LARGE TOWARDS_LARGEST
  SIGNWRITING_MOVEMENT-FLOORPLANE_SINGLE_STRAIGHT_: SMALL MEDIUM LARGE LARGEST
  SIGNWRITING_MOVEMENT-FLOORPLANE_: SINGLE_WRIST_FLEX DOUBLE_STRAIGHT DOUBLE_WRIST_FLEX
  DOUBLE_ALTERNATING DOUBLE_ALTERNATING_WRIST_FLEX CROSS TRIPLE_STRAIGHT_MOVEMENT TRIPLE_WRIST_FLEX
  TRIPLE_ALTERNATING_MOVEMENT TRIPLE_ALTERNATING_WRIST_FLEX BEND CORNER_SMALL CORNER_MEDIUM
  CORNER_LARGE CHECK BOX_SMALL BOX_MEDIUM BOX_LARGE ZIGZAG_SMALL ZIGZAG_MEDIUM ZIGZAG_LARGE
  PEAKS_SMALL PEAKS_MEDIUM PEAKS_LARGE SIGNWRITING_TRAVEL-FLOORPLANE_ROTATION-FLOORPLANE_: SINGLE
  DOUBLE ALTERNATING SIGNWRITING_TRAVEL-FLOORPLANE_ROTATION-WALLPLANE_: SINGLE DOUBLE ALTERNATING
  SIGNWRITING_TRAVEL-FLOORPLANE_: SHAKING SIGNWRITING_MOVEMENT-WALLPLANE_CURVE_QUARTER_: SMALL
  MEDIUM LARGE LARGEST SIGNWRITING_MOVEMENT-WALLPLANE_CURVE_HALF-CIRCLE_: SMALL MEDIUM LARGE
  LARGEST SIGNWRITING_MOVEMENT-WALLPLANE_: CURVE_THREE-QUARTER_CIRCLE_SMALL
  CURVE_THREE-QUARTER_CIRCLE_MEDIUM HUMP_SMALL HUMP_MEDIUM HUMP_LARGE LOOP_SMALL LOOP_MEDIUM
  LOOP_LARGE LOOP_SMALL_DOUBLE WAVE_CURVE_DOUBLE_SMALL WAVE_CURVE_DOUBLE_MEDIUM
  WAVE_CURVE_DOUBLE_LARGE WAVE_CURVE_TRIPLE_SMALL WAVE_CURVE_TRIPLE_MEDIUM WAVE_CURVE_TRIPLE_LARGE
  CURVE_THEN_STRAIGHT CURVED_CROSS_SMALL CURVED_CROSS_MEDIUM SIGNWRITING_ROTATION-WALLPLANE_:
  SINGLE DOUBLE ALTERNATE SIGNWRITING_MOVEMENT-WALLPLANE_: SHAKING CURVE_HITTING_FRONT_WALL
  HUMP_HITTING_FRONT_WALL LOOP_HITTING_FRONT_WALL WAVE_HITTING_FRONT_WALL
  SIGNWRITING_ROTATION-WALLPLANE_: SINGLE_HITTING_FRONT_WALL DOUBLE_HITTING_FRONT_WALL
  ALTERNATING_HITTING_FRONT_WALL SIGNWRITING_MOVEMENT-WALLPLANE_: CURVE_HITTING_CHEST
  HUMP_HITTING_CHEST LOOP_HITTING_CHEST WAVE_HITTING_CHEST SIGNWRITING_ROTATION-WALLPLANE_:
  SINGLE_HITTING_CHEST DOUBLE_HITTING_CHEST ALTERNATING_HITTING_CHEST
  SIGNWRITING_MOVEMENT-WALLPLANE_WAVE_DIAGONAL_PATH_: SMALL MEDIUM LARGE
  SIGNWRITING_MOVEMENT-FLOORPLANE_CURVE_HITTING_CEILING_: SMALL LARGE
  SIGNWRITING_MOVEMENT-FLOORPLANE_HUMP_HITTING_CEILING_: SMALL_DOUBLE LARGE_DOUBLE SMALL_TRIPLE
  LARGE_TRIPLE SIGNWRITING_MOVEMENT-FLOORPLANE_LOOP_HITTING_CEILING_: SMALL_SINGLE LARGE_SINGLE
  SMALL_DOUBLE LARGE_DOUBLE SIGNWRITING_MOVEMENT-FLOORPLANE_WAVE_HITTING_CEILING_: SMALL LARGE
  SIGNWRITING_ROTATION-FLOORPLANE_: SINGLE_HITTING_CEILING DOUBLE_HITTING_CEILING
  ALTERNATING_HITTING_CEILING SIGNWRITING_MOVEMENT-FLOORPLANE_CURVE_HITTING_FLOOR_: SMALL LARGE
  SIGNWRITING_MOVEMENT-FLOORPLANE_HUMP_HITTING_FLOOR_: SMALL_DOUBLE LARGE_DOUBLE
  TRIPLE_SMALL_TRIPLE TRIPLE_LARGE_TRIPLE SIGNWRITING_MOVEMENT-FLOORPLANE_LOOP_HITTING_FLOOR_:
  SMALL_SINGLE LARGE_SINGLE SMALL_DOUBLE LARGE_DOUBLE
  SIGNWRITING_MOVEMENT-FLOORPLANE_WAVE_HITTING_FLOOR_: SMALL LARGE
  SIGNWRITING_ROTATION-FLOORPLANE_: SINGLE_HITTING_FLOOR DOUBLE_HITTING_FLOOR
  ALTERNATING_HITTING_FLOOR SIGNWRITING_MOVEMENT-FLOORPLANE_: CURVE_SMALL CURVE_MEDIUM CURVE_LARGE
  CURVE_LARGEST CURVE_COMBINED HUMP_SMALL LOOP_SMALL WAVE_SNAKE WAVE_SMALL WAVE_LARGE
  SIGNWRITING_ROTATION-FLOORPLANE_: SINGLE DOUBLE ALTERNATING
  SIGNWRITING_MOVEMENT-FLOORPLANE_SHAKING_: PARALLEL SIGNWRITING_MOVEMENT-WALLPLANE_ARM_CIRCLE_:
  SMALL_SINGLE MEDIUM_SINGLE SMALL_DOUBLE MEDIUM_DOUBLE
  SIGNWRITING_MOVEMENT-FLOORPLANE_ARM_CIRCLE_HITTING_WALL_: SMALL_SINGLE MEDIUM_SINGLE LARGE_SINGLE
  SMALL_DOUBLE MEDIUM_DOUBLE LARGE_DOUBLE SIGNWRITING_MOVEMENT-WALLPLANE_WRIST_CIRCLE_FRONT_:
  SINGLE DOUBLE SIGNWRITING_MOVEMENT-FLOORPLANE_WRIST_CIRCLE_HITTING_WALL_: SINGLE DOUBLE
  SIGNWRITING_MOVEMENT-WALLPLANE_FINGER_CIRCLES_: SINGLE DOUBLE
  SIGNWRITING_MOVEMENT-FLOORPLANE_FINGER_CIRCLES_HITTING_WALL_: SINGLE DOUBLE SIGNWRITING_DYNAMIC_:
  ARROWHEAD_SMALL ARROWHEAD_LARGE FAST SLOW TENSE RELAXED SIMULTANEOUS SIMULTANEOUS_ALTERNATING
  EVERY_OTHER_TIME GRADUAL SIGNWRITING_: HEAD HEAD_RIM SIGNWRITING_HEAD_MOVEMENT-:
  WALLPLANE_STRAIGHT WALLPLANE_TILT FLOORPLANE_STRAIGHT WALLPLANE_CURVE FLOORPLANE_CURVE
  SIGNWRITING_HEAD_MOVEMENT_: CIRCLE SIGNWRITING_FACE_DIRECTION_POSITION_NOSE_: FORWARD_TILTING
  UP_OR_DOWN UP_OR_DOWN_TILTING SIGNWRITING_EYEBROWS_STRAIGHT_: UP NEUTRAL DOWN
  SIGNWRITING_DREAMY_EYEBROWS_: NEUTRAL_DOWN DOWN_NEUTRAL UP_NEUTRAL NEUTRAL_UP
  SIGNWRITING_FOREHEAD_: NEUTRAL CONTACT WRINKLED SIGNWRITING_: EYES_OPEN EYES_SQUEEZED EYES_CLOSED
  EYE_BLINK_SINGLE EYE_BLINK_MULTIPLE EYES_HALF_OPEN EYES_WIDE_OPEN EYES_HALF_CLOSED
  EYES_WIDENING_MOVEMENT EYE_WINK SIGNWRITING_EYELASHES_: UP DOWN FLUTTERING SIGNWRITING_EYEGAZE-:
  WALLPLANE_STRAIGHT WALLPLANE_STRAIGHT_DOUBLE WALLPLANE_STRAIGHT_ALTERNATING FLOORPLANE_STRAIGHT
  FLOORPLANE_STRAIGHT_DOUBLE FLOORPLANE_STRAIGHT_ALTERNATING WALLPLANE_CURVED FLOORPLANE_CURVED
  WALLPLANE_CIRCLING SIGNWRITING_CHEEKS_: PUFFED NEUTRAL SUCKED SIGNWRITING_TENSE_CHEEKS_: HIGH
  MIDDLE LOW SIGNWRITING_: EARS NOSE_NEUTRAL NOSE_CONTACT NOSE_WRINKLES NOSE_WIGGLES
  AIR_BLOWING_OUT AIR_SUCKING_IN AIR_BLOW_SMALL_ROTATIONS AIR_SUCK_SMALL_ROTATIONS BREATH_INHALE
  BREATH_EXHALE SIGNWRITING_MOUTH_: CLOSED_NEUTRAL CLOSED_FORWARD CLOSED_CONTACT SMILE
  SMILE_WRINKLED SMILE_OPEN FROWN FROWN_WRINKLED FROWN_OPEN OPEN_CIRCLE OPEN_FORWARD OPEN_WRINKLED
  OPEN_OVAL OPEN_OVAL_WRINKLED OPEN_OVAL_YAWN OPEN_RECTANGLE OPEN_RECTANGLE_WRINKLED
  OPEN_RECTANGLE_YAWN KISS KISS_FORWARD KISS_WRINKLED TENSE TENSE_FORWARD TENSE_SUCKED
  SIGNWRITING_: LIPS_PRESSED_TOGETHER LIP_LOWER_OVER_UPPER LIP_UPPER_OVER_LOWER MOUTH_CORNERS
  SIGNWRITING_MOUTH_WRINKLES_: SINGLE DOUBLE SIGNWRITING_TONGUE_: STICKING_OUT_FAR LICKING_LIPS
  TIP_BETWEEN_LIPS TIP_TOUCHING_INSIDE_MOUTH INSIDE_MOUTH_RELAXED MOVES_AGAINST_CHEEK
  CENTRE_STICKING_OUT CENTRE_INSIDE_MOUTH SIGNWRITING_: TEETH SIGNWRITING_TEETH_: MOVEMENT
  ON_TONGUE ON_TONGUE_MOVEMENT ON_LIPS ON_LIPS_MOVEMENT BITE_LIPS SIGNWRITING_:
  MOVEMENT-WALLPLANE_JAW MOVEMENT-FLOORPLANE_JAW NECK HAIR EXCITEMENT SHOULDER_HIP_SPINE
  SHOULDER_HIP_POSITIONS WALLPLANE_SHOULDER_HIP_MOVE FLOORPLANE_SHOULDER_HIP_MOVE
  SHOULDER_TILTING_FROM_WAIST TORSO-WALLPLANE_STRAIGHT_STRETCH TORSO-WALLPLANE_CURVED_BEND
  TORSO-FLOORPLANE_TWISTING UPPER_BODY_TILTING_FROM_HIP_JOINTS LIMB_COMBINATION
  SIGNWRITING_LIMB_LENGTH-: 1 2 3 4 5 6 7 SIGNWRITING_: FINGER LOCATION-WALLPLANE_SPACE
  LOCATION-FLOORPLANE_SPACE SIGNWRITING_LOCATION_: HEIGHT WIDTH DEPTH HEAD_NECK TORSO LIMBS_DIGITS
  SIGNWRITING_: COMMA FULL_STOP SEMICOLON COLON PARENTHESIS @1DA9B SIGNWRITING_FILL_MODIFIER-: 2 3
  4 5 6 @1DAA1 SIGNWRITING_ROTATION_MODIFIER-: 2 3 4 5 6 7 8 9 10 11 12 13 14 15 16 @1DF00
  LATIN_SMALL_LETTER_: FENG_DIGRAPH_WITH_TRILL REVERSED_SCRIPT_G LATIN_:
  LETTER_SMALL_CAPITAL_TURNED_G SMALL_LETTER_REVERSED_K LETTER_SMALL_CAPITAL_L_WITH_BELT
  LATIN_SMALL_LETTER_: LEZH_WITH_RETROFLEX_HOOK TURNED_Y_WITH_BELT REVERSED_ENG
  TURNED_R_WITH_LONG_LEG_AND_RETROFLEX_HOOK T_WITH_HOOK_AND_RETROFLEX_HOOK
  LATIN_LETTER_RETROFLEX_CLICK_WITH_RETROFLEX_: HOOK LATIN_SMALL_LETTER_: ESH_WITH_DOUBLE_BAR
  ESH_WITH_DOUBLE_BAR_AND_CURL TURNED_T_WITH_CURL LATIN_LETTER_: INVERTED_GLOTTAL_STOP_WITH_CURL
  STRETCHED_C_WITH_CURL SMALL_CAPITAL_TURNED_K LATIN_SMALL_LETTER_: L_WITH_FISHHOOK
  DEZH_DIGRAPH_WITH_PALATAL_HOOK L_WITH_BELT_AND_PALATAL_HOOK ENG_WITH_PALATAL_HOOK
  TURNED_R_WITH_PALATAL_HOOK R_WITH_FISHHOOK_AND_PALATAL_HOOK TESH_DIGRAPH_WITH_PALATAL_HOOK
  EZH_WITH_PALATAL_HOOK DEZH_DIGRAPH_WITH_RETROFLEX_HOOK I_WITH_STROKE_AND_RETROFLEX_HOOK
  O_WITH_RETROFLEX_HOOK TESH_DIGRAPH_WITH_RETROFLEX_HOOK C_WITH_RETROFLEX_HOOK S_WITH_CURL @1E000
  COMBINING_GLAGOLITIC_LETTER_: AZU BUKY VEDE GLAGOLI DOBRO YESTU ZHIVETE @1E008 ZEMLJA IZHE
  INITIAL_IZHE I DJERVI KAKO LJUDIJE MYSLITE NASHI ONU POKOJI RITSI SLOVO TVRIDO UKU FRITU HERU
  @1E01B SHTA TSI CHRIVI SHA YERU YERI YATI @1E023 YU SMALL_YUS @1E026 YO IOTATED_SMALL_YUS BIG_YUS
  IOTATED_BIG_YUS FITA @1E100 NYIAKENG_PUACHUE_HMONG_LETTER_: MA TSA NTA TA HA NA XA NKA CA LA SA
  ZA NCA NTSA KA DA NYA NRA VA NTXA TXA FA RA QA YA NQA PA XYA NPA DLA NPLA HAH MLA PLA GA RRA A AA
  I U O OO E EE W @1E130 NYIAKENG_PUACHUE_HMONG_TONE-: B M J V S G D
  NYIAKENG_PUACHUE_HMONG_SIGN_FOR_: PERSON THING LOCATION ANIMAL INVERTEBRATE
  NYIAKENG_PUACHUE_HMONG_: SIGN_XW_XW SYLLABLE_LENGTHENER @1E140 NYIAKENG_PUACHUE_HMONG_DIGIT_:
  ZERO ONE TWO THREE FOUR FIVE SIX SEVEN EIGHT NINE @1E14E NYIAKENG_PUACHUE_HMONG_: LOGOGRAM_NYAJ
  CIRCLED_CA @1E290 TOTO_LETTER_: PA BA TA DA KA GA MA NA NGA SA CHA YA WA JA HA RA LA I BREATHY_I
  IU BREATHY_IU U E BREATHY_E EO BREATHY_EO O AE BREATHY_AE A TOTO_SIGN_RISING_: TONE @1E2C0
  WANCHO_LETTER_: AA A BA CA DA GA YA PHA LA NA PA TA THA FA SA SHA JA ZA WA VA KA O AU RA MA KHA
  HA E I NGA U LLHA TSA TRA ONG AANG ANG ING ON EN AAN NYA UEN YIH WANCHO_TONE_: TUP TUPNI KOI
  KOINI WANCHO_DIGIT_: ZERO ONE TWO THREE FOUR FIVE SIX SEVEN EIGHT NINE @1E2FF WANCHO_NGUN_: SIGN
  @1E7E0 ETHIOPIC_SYLLABLE_: HHYA HHYU HHYI HHYAA HHYEE HHYE HHYO @1E7E8 GURAGE_HHWA HHWI HHWEE
  HHWE @1E7ED ETHIOPIC_SYLLABLE_GURAGE_: MWI MWEE @1E7F0 QWI QWEE QWE BWI BWEE KWI KWEE KWE GWI
  GWEE GWE FWI FWEE PWI PWEE @1E800 MENDE_KIKAKUI_SYLLABLE_: M001_KI M002_KA M003_KU M065_KEE
  M095_KE M076_KOO M048_KO M179_KUA M004_WI M005_WA M006_WU M126_WEE M118_WE M114_WOO M045_WO
  M194_WUI M143_WEI M061_WVI M049_WVA M139_WVE M007_MIN M008_MAN M009_MUN M059_MEN M094_MON
  M154_MUAN M189_MUEN M010_BI M011_BA M012_BU M150_BEE M097_BE M103_BOO M138_BO M013_I M014_A
  M015_U M163_EE M100_E M165_OO M147_O M137_EI M131_IN M135_IN M195_AN M178_EN M019_SI M020_SA
  M021_SU M162_SEE M116_SE M136_SOO M079_SO M196_SIA M025_LI M026_LA M027_LU M084_LEE M073_LE
  M054_LOO M153_LO M110_LONG_LE M016_DI M017_DA M018_DU M089_DEE M180_DOO M181_DO M022_TI M023_TA
  M024_TU M091_TEE M055_TE M104_TOO M069_TO M028_JI M029_JA M030_JU M157_JEE M113_JE M160_JOO
  M063_JO M175_LONG_JO M031_YI M032_YA M033_YU M109_YEE M080_YE M141_YOO M121_YO M034_FI M035_FA
  M036_FU M078_FEE M075_FE M133_FOO M088_FO M197_FUA M101_FAN M037_NIN M038_NAN M039_NUN M117_NEN
  M169_NON M176_HI M041_HA M186_HU M040_HEE M096_HE M042_HOO M140_HO M083_HEEI M128_HOOU M053_HIN
  M130_HAN M087_HUN M052_HEN M193_HON M046_HUAN M090_NGGI M043_NGGA M082_NGGU M115_NGGEE M146_NGGE
  M156_NGGOO M120_NGGO M159_NGGAA M127_NGGUA M086_LONG_NGGE M106_LONG_NGGOO M183_LONG_NGGO M155_GI
  M111_GA M168_GU M190_GEE M166_GUEI M167_GUAN M184_NGEN M057_NGON M177_NGUAN M068_PI M099_PA
  M050_PU M081_PEE M051_PE M102_POO M066_PO M145_MBI M062_MBA M122_MBU M047_MBEE M188_MBEE M072_MBE
  M172_MBOO M174_MBO M187_MBUU M161_LONG_MBE M105_LONG_MBOO M142_LONG_MBO M132_KPI M092_KPA
  M074_KPU M044_KPEE M108_KPE M112_KPOO M158_KPO M124_GBI M056_GBA M148_GBU M093_GBEE M107_GBE
  M071_GBOO M070_GBO M171_RA M123_NDI M129_NDA M125_NDU M191_NDEE M119_NDE M067_NDOO M064_NDO
  M152_NJA M192_NJU M149_NJEE M134_NJOO M182_VI M185_VA M151_VU M173_VEE M085_VE M144_VOO M077_VO
  M164_NYIN M058_NYAN M170_NYUN M098_NYEN M060_NYON @1E8C7 MENDE_KIKAKUI_DIGIT_: ONE TWO THREE FOUR
  FIVE SIX SEVEN EIGHT NINE MENDE_KIKAKUI_COMBINING_NUMBER_: TEENS TENS HUNDREDS THOUSANDS
  TEN_THOUSANDS HUNDRED_THOUSANDS MILLIONS @1E900 ADLAM_CAPITAL_LETTER_: ALIF DAALI LAAM MIIM BA
  SINNYIIYHE PE BHE RA E FA I O DHA YHE WAW NUN KAF YA U JIIM CHI HA QAAF GA NYA TU NHA VA KHA GBE
  ZAL KPO SHA ADLAM_SMALL_LETTER_: ALIF DAALI LAAM MIIM BA SINNYIIYHE PE BHE RA E FA I O DHA YHE
  WAW NUN KAF YA U JIIM CHI HA QAAF GA NYA TU NHA VA KHA GBE ZAL KPO SHA ADLAM_: ALIF_LENGTHENER
  VOWEL_LENGTHENER GEMINATION_MARK HAMZA CONSONANT_MODIFIER GEMINATE_CONSONANT_MODIFIER NUKTA
  NASALIZATION_MARK @1E950 ADLAM_DIGIT_: ZERO ONE TWO THREE FOUR FIVE SIX SEVEN EIGHT NINE @1E95E
  ADLAM_INITIAL_: EXCLAMATION_MARK QUESTION_MARK @1EC71 INDIC_SIYAQ_NUMBER_: ONE TWO THREE FOUR
  FIVE SIX SEVEN EIGHT NINE TEN TWENTY THIRTY FORTY FIFTY SIXTY SEVENTY EIGHTY NINETY ONE_HUNDRED
  TWO_HUNDRED THREE_HUNDRED FOUR_HUNDRED FIVE_HUNDRED SIX_HUNDRED SEVEN_HUNDRED EIGHT_HUNDRED
  NINE_HUNDRED ONE_THOUSAND TWO_THOUSAND THREE_THOUSAND FOUR_THOUSAND FIVE_THOUSAND SIX_THOUSAND
  SEVEN_THOUSAND EIGHT_THOUSAND NINE_THOUSAND TEN_THOUSAND TWENTY_THOUSAND THIRTY_THOUSAND
  FORTY_THOUSAND FIFTY_THOUSAND SIXTY_THOUSAND SEVENTY_THOUSAND EIGHTY_THOUSAND NINETY_THOUSAND
  LAKH LAKHAN INDIC_SIYAQ_: LAKH_MARK NUMBER_KAROR NUMBER_KARORAN INDIC_SIYAQ_NUMBER_PREFIXED_: ONE
  TWO THREE FOUR FIVE SIX SEVEN EIGHT NINE INDIC_SIYAQ_: PLACEHOLDER FRACTION_ONE_QUARTER
  FRACTION_ONE_HALF FRACTION_THREE_QUARTERS RUPEE_MARK INDIC_SIYAQ_NUMBER_ALTERNATE_: ONE TWO
  TEN_THOUSAND INDIC_SIYAQ_ALTERNATE_LAKH_: MARK @1ED01 OTTOMAN_SIYAQ_NUMBER_: ONE TWO THREE FOUR
  FIVE SIX SEVEN EIGHT NINE TEN TWENTY THIRTY FORTY FIFTY SIXTY SEVENTY EIGHTY NINETY ONE_HUNDRED
  TWO_HUNDRED THREE_HUNDRED FOUR_HUNDRED FIVE_HUNDRED SIX_HUNDRED SEVEN_HUNDRED EIGHT_HUNDRED
  NINE_HUNDRED ONE_THOUSAND TWO_THOUSAND THREE_THOUSAND FOUR_THOUSAND FIVE_THOUSAND SIX_THOUSAND
  SEVEN_THOUSAND EIGHT_THOUSAND NINE_THOUSAND TEN_THOUSAND TWENTY_THOUSAND THIRTY_THOUSAND
  FORTY_THOUSAND FIFTY_THOUSAND SIXTY_THOUSAND SEVENTY_THOUSAND EIGHTY_THOUSAND NINETY_THOUSAND
  OTTOMAN_SIYAQ_: MARRATAN OTTOMAN_SIYAQ_ALTERNATE_NUMBER_: TWO THREE FOUR FIVE SIX SEVEN EIGHT
  NINE TEN FOUR_HUNDRED SIX_HUNDRED TWO_THOUSAND TEN_THOUSAND OTTOMAN_SIYAQ_FRACTION_ONE_: HALF
  SIXTH @1EE00 ARABIC_MATHEMATICAL_: ALEF BEH JEEM DAL @1EE05 WAW ZAIN HAH TAH YEH KAF LAM MEEM
  NOON SEEN AIN FEH SAD QAF REH SHEEN TEH THEH KHAH THAL DAD ZAH GHAIN
  ARABIC_MATHEMATICAL_DOTLESS_: BEH NOON FEH QAF @1EE21 ARABIC_MATHEMATICAL_INITIAL_: BEH JEEM
  @1EE24 HEH @1EE27 HAH @1EE29 YEH KAF LAM MEEM NOON SEEN AIN FEH SAD QAF @1EE34 SHEEN TEH THEH
  KHAH @1EE39 DAD @1EE3B GHAIN @1EE42 ARABIC_MATHEMATICAL_TAILED_: JEEM @1EE47 HAH @1EE49 YEH
  @1EE4B LAM @1EE4D NOON SEEN AIN @1EE51 SAD QAF @1EE54 SHEEN @1EE57 KHAH @1EE59 DAD @1EE5B GHAIN
  @1EE5D ARABIC_MATHEMATICAL_TAILED_DOTLESS_: NOON @1EE5F QAF @1EE61
  ARABIC_MATHEMATICAL_STRETCHED_: BEH JEEM @1EE64 HEH @1EE67 HAH TAH YEH KAF @1EE6C MEEM NOON SEEN
  AIN FEH SAD QAF @1EE74 SHEEN TEH THEH KHAH @1EE79 DAD ZAH GHAIN DOTLESS_BEH @1EE7E
  ARABIC_MATHEMATICAL_STRETCHED_DOTLESS_: FEH @1EE80 ARABIC_MATHEMATICAL_LOOPED_: ALEF BEH JEEM DAL
  HEH WAW ZAIN HAH TAH YEH @1EE8B LAM MEEM NOON SEEN AIN FEH SAD QAF REH SHEEN TEH THEH KHAH THAL
  DAD ZAH GHAIN @1EEA1 ARABIC_MATHEMATICAL_DOUBLE-STRUCK_: BEH JEEM DAL @1EEA5 WAW ZAIN HAH TAH YEH
  @1EEAB LAM MEEM NOON SEEN AIN FEH SAD QAF REH SHEEN TEH THEH KHAH THAL DAD ZAH GHAIN @1EEF0
  ARABIC_MATHEMATICAL_OPERATOR_: MEEM_WITH_HAH_WITH_TATWEEL HAH_WITH_DAL @1F000 MAHJONG_TILE_:
  EAST_WIND SOUTH_WIND WEST_WIND NORTH_WIND RED_DRAGON GREEN_DRAGON WHITE_DRAGON ONE_OF_CHARACTERS
  TWO_OF_CHARACTERS THREE_OF_CHARACTERS FOUR_OF_CHARACTERS FIVE_OF_CHARACTERS SIX_OF_CHARACTERS
  SEVEN_OF_CHARACTERS EIGHT_OF_CHARACTERS NINE_OF_CHARACTERS ONE_OF_BAMBOOS TWO_OF_BAMBOOS
  THREE_OF_BAMBOOS FOUR_OF_BAMBOOS FIVE_OF_BAMBOOS SIX_OF_BAMBOOS SEVEN_OF_BAMBOOS EIGHT_OF_BAMBOOS
  NINE_OF_BAMBOOS ONE_OF_CIRCLES TWO_OF_CIRCLES THREE_OF_CIRCLES FOUR_OF_CIRCLES FIVE_OF_CIRCLES
  SIX_OF_CIRCLES SEVEN_OF_CIRCLES EIGHT_OF_CIRCLES NINE_OF_CIRCLES PLUM ORCHID BAMBOO CHRYSANTHEMUM
  SPRING SUMMER AUTUMN WINTER JOKER BACK @1F030 DOMINO_TILE_HORIZONTAL_: BACK
  DOMINO_TILE_HORIZONTAL-: 00-00 00-01 00-02 00-03 00-04 00-05 00-06 01-00 01-01 01-02 01-03 01-04
  01-05 01-06 02-00 02-01 02-02 02-03 02-04 02-05 02-06 03-00 03-01 03-02 03-03 03-04 03-05 03-06
  04-00 04-01 04-02 04-03 04-04 04-05 04-06 05-00 05-01 05-02 05-03 05-04 05-05 05-06 06-00 06-01
  06-02 06-03 06-04 06-05 06-06 DOMINO_TILE_VERTICAL_: BACK DOMINO_TILE_VERTICAL-: 00-00 00-01
  00-02 00-03 00-04 00-05 00-06 01-00 01-01 01-02 01-03 01-04 01-05 01-06 02-00 02-01 02-02 02-03
  02-04 02-05 02-06 03-00 03-01 03-02 03-03 03-04 03-05 03-06 04-00 04-01 04-02 04-03 04-04 04-05
  04-06 05-00 05-01 05-02 05-03 05-04 05-05 05-06 06-00 06-01 06-02 06-03 06-04 06-05 06-06 @1F0A0
  PLAYING_CARD_: BACK ACE_OF_SPADES TWO_OF_SPADES THREE_OF_SPADES FOUR_OF_SPADES FIVE_OF_SPADES
  SIX_OF_SPADES SEVEN_OF_SPADES EIGHT_OF_SPADES NINE_OF_SPADES TEN_OF_SPADES JACK_OF_SPADES
  KNIGHT_OF_SPADES QUEEN_OF_SPADES KING_OF_SPADES @1F0B1 ACE_OF_HEARTS TWO_OF_HEARTS
  THREE_OF_HEARTS FOUR_OF_HEARTS FIVE_OF_HEARTS SIX_OF_HEARTS SEVEN_OF_HEARTS EIGHT_OF_HEARTS
  NINE_OF_HEARTS TEN_OF_HEARTS JACK_OF_HEARTS KNIGHT_OF_HEARTS QUEEN_OF_HEARTS KING_OF_HEARTS
  RED_JOKER @1F0C1 ACE_OF_DIAMONDS TWO_OF_DIAMONDS THREE_OF_DIAMONDS FOUR_OF_DIAMONDS
  FIVE_OF_DIAMONDS SIX_OF_DIAMONDS SEVEN_OF_DIAMONDS EIGHT_OF_DIAMONDS NINE_OF_DIAMONDS
  TEN_OF_DIAMONDS JACK_OF_DIAMONDS KNIGHT_OF_DIAMONDS QUEEN_OF_DIAMONDS KING_OF_DIAMONDS
  BLACK_JOKER @1F0D1 ACE_OF_CLUBS TWO_OF_CLUBS THREE_OF_CLUBS FOUR_OF_CLUBS FIVE_OF_CLUBS
  SIX_OF_CLUBS SEVEN_OF_CLUBS EIGHT_OF_CLUBS NINE_OF_CLUBS TEN_OF_CLUBS JACK_OF_CLUBS
  KNIGHT_OF_CLUBS QUEEN_OF_CLUBS KING_OF_CLUBS WHITE_JOKER FOOL PLAYING_CARD_TRUMP-: 1 2 3 4 5 6 7
  8 9 10 11 12 13 14 15 16 17 18 19 20 21 @1F100 DIGIT_: ZERO_FULL_STOP ZERO_COMMA ONE_COMMA
  TWO_COMMA THREE_COMMA FOUR_COMMA FIVE_COMMA SIX_COMMA SEVEN_COMMA EIGHT_COMMA NINE_COMMA
  DINGBAT_: CIRCLED_SANS-SERIF_DIGIT_ZERO NEGATIVE_CIRCLED_SANS-SERIF_DIGIT_ZERO CIRCLED_:
  ZERO_WITH_SLASH ANTICLOCKWISE_ARROW DOLLAR_SIGN_WITH_OVERLAID_BACKSLASH
  PARENTHESIZED_LATIN_CAPITAL_LETTER_: A B C D E F G H I J K L M N O P Q R S T U V W X Y Z
  TORTOISE_SHELL_BRACKETED_LATIN_CAPITAL_LETTER_: S CIRCLED_ITALIC_LATIN_CAPITAL_LETTER_: C R
  CIRCLED_: CD WZ COPYLEFT_: SYMBOL SQUARED_LATIN_CAPITAL_LETTER_: A B C D E F G H I J K L M N O P
  Q R S T U V W X Y Z SQUARED_: HV MV SD SS PPV WC NEGATIVE_CIRCLED_LATIN_CAPITAL_LETTER_: A B C D
  E F G H I J K L M N O P Q R S T U V W X Y Z RAISED_: MC_SIGN MD_SIGN MR_SIGN CIRCLED_: CC
  C_WITH_OVERLAID_BACKSLASH HUMAN_FIGURE NEGATIVE_SQUARED_LATIN_CAPITAL_LETTER_: A B C D E F G H I
  J K L M N O P Q R S T U V W X Y Z CROSSED_NEGATIVE_SQUARED_LATIN_CAPITAL_LETTER_: P
  NEGATIVE_SQUARED_: IC PA SA AB WC SQUARE_: DJ SQUARED_: CL COOL FREE ID NEW NG OK SOS
  UP_WITH_EXCLAMATION_MARK VS THREE_D SECOND_SCREEN TWO_K FOUR_K EIGHT_K FIVE_POINT_ONE
  SEVEN_POINT_ONE TWENTY-TWO_POINT_TWO SIXTY_P ONE_HUNDRED_TWENTY_P LATIN_SMALL_LETTER_D HC HDR
  HI-RES LOSSLESS SHV UHD VOD MASK_WORK_: SYMBOL @1F1E6 REGIONAL_INDICATOR_SYMBOL_LETTER_: A B C D
  E F G H I J K L M N O P Q R S T U V W X Y Z SQUARE_HIRAGANA_: HOKA SQUARED_KATAKANA_: KOKO SA
  @1F210 SQUARED_CJK_UNIFIED_IDEOGRAPH-: 624B 5B57 53CC SQUARED_KATAKANA_: DE
  SQUARED_CJK_UNIFIED_IDEOGRAPH-: 4E8C 591A 89E3 5929 4EA4 6620 7121 6599 524D 5F8C 518D 65B0 521D
  7D42 751F 8CA9 58F0 5439 6F14 6295 6355 4E00 4E09 904A 5DE6 4E2D 53F3 6307 8D70 6253 7981 7A7A
  5408 6E80 6709 6708 7533 5272 55B6 914D @1F240 TORTOISE_SHELL_BRACKETED_CJK_UNIFIED_IDEOGRAPH-:
  672C 4E09 4E8C 5B89 70B9 6253 76D7 52DD 6557 @1F250 CIRCLED_IDEOGRAPH_: ADVANTAGE ACCEPT @1F260
  ROUNDED_SYMBOL_FOR_: FU LU SHOU XI SHUANGXI CAI @1F300 : CYCLONE FOGGY CLOSED_UMBRELLA
  NIGHT_WITH_STARS SUNRISE_OVER_MOUNTAINS SUNRISE CITYSCAPE_AT_DUSK SUNSET_OVER_BUILDINGS RAINBOW
  BRIDGE_AT_NIGHT WATER_WAVE VOLCANO MILKY_WAY EARTH_GLOBE_: EUROPE-AFRICA AMERICAS ASIA-AUSTRALIA
  : GLOBE_WITH_MERIDIANS NEW_MOON_SYMBOL WAXING_CRESCENT_MOON_SYMBOL FIRST_QUARTER_MOON_SYMBOL
  WAXING_GIBBOUS_MOON_SYMBOL FULL_MOON_SYMBOL WANING_GIBBOUS_MOON_SYMBOL LAST_QUARTER_MOON_SYMBOL
  WANING_CRESCENT_MOON_SYMBOL CRESCENT_MOON NEW_MOON_WITH_FACE FIRST_QUARTER_MOON_WITH_FACE
  LAST_QUARTER_MOON_WITH_FACE FULL_MOON_WITH_FACE SUN_WITH_FACE GLOWING_STAR SHOOTING_STAR
  THERMOMETER BLACK_DROPLET WHITE_: SUN SUN_WITH_SMALL_CLOUD WHITE_SUN_BEHIND_: CLOUD
  CLOUD_WITH_RAIN CLOUD_WITH_: RAIN SNOW LIGHTNING TORNADO : FOG WIND_BLOWING_FACE HOT_DOG TACO
  BURRITO CHESTNUT SEEDLING EVERGREEN_TREE DECIDUOUS_TREE PALM_TREE CACTUS HOT_PEPPER TULIP
  CHERRY_BLOSSOM ROSE HIBISCUS SUNFLOWER BLOSSOM EAR_OF_: MAIZE RICE : HERB FOUR_LEAF_CLOVER
  MAPLE_LEAF FALLEN_LEAF LEAF_FLUTTERING_IN_WIND MUSHROOM TOMATO AUBERGINE GRAPES MELON WATERMELON
  TANGERINE LEMON BANANA PINEAPPLE RED_APPLE GREEN_APPLE PEAR PEACH CHERRIES STRAWBERRY HAMBURGER
  SLICE_OF_PIZZA MEAT_ON_BONE POULTRY_LEG RICE_: CRACKER BALL : COOKED_RICE CURRY_AND_RICE
  STEAMING_BOWL SPAGHETTI BREAD FRENCH_FRIES ROASTED_SWEET_POTATO DANGO ODEN SUSHI FRIED_SHRIMP
  FISH_CAKE_WITH_SWIRL_DESIGN SOFT_ICE_CREAM SHAVED_ICE ICE_CREAM DOUGHNUT COOKIE CHOCOLATE_BAR
  CANDY LOLLIPOP CUSTARD HONEY_POT SHORTCAKE BENTO_BOX POT_OF_FOOD COOKING FORK_AND_KNIFE
  TEACUP_WITHOUT_HANDLE SAKE_BOTTLE_AND_CUP WINE_GLASS COCKTAIL_GLASS TROPICAL_DRINK BEER_MUG
  CLINKING_BEER_MUGS BABY_BOTTLE FORK_AND_KNIFE_WITH_PLATE BOTTLE_WITH_POPPING_CORK POPCORN RIBBON
  WRAPPED_PRESENT BIRTHDAY_CAKE JACK-O-LANTERN CHRISTMAS_TREE FATHER_CHRISTMAS FIREWORKS
  FIREWORK_SPARKLER BALLOON PARTY_POPPER CONFETTI_BALL TANABATA_TREE CROSSED_FLAGS PINE_DECORATION
  JAPANESE_DOLLS CARP_STREAMER WIND_CHIME MOON_VIEWING_CEREMONY SCHOOL_SATCHEL GRADUATION_CAP
  HEART_WITH_TIP_ON_THE_LEFT BOUQUET_OF_FLOWERS MILITARY_MEDAL REMINDER_RIBBON
  MUSICAL_KEYBOARD_WITH_JACKS STUDIO_MICROPHONE LEVEL_SLIDER CONTROL_KNOBS BEAMED_:
  ASCENDING_MUSICAL_NOTES DESCENDING_MUSICAL_NOTES : FILM_FRAMES ADMISSION_TICKETS CAROUSEL_HORSE
  FERRIS_WHEEL ROLLER_COASTER FISHING_POLE_AND_FISH MICROPHONE MOVIE_CAMERA CINEMA HEADPHONE
  ARTIST_PALETTE TOP_HAT CIRCUS_TENT TICKET CLAPPER_BOARD PERFORMING_ARTS VIDEO_GAME DIRECT_HIT
  SLOT_MACHINE BILLIARDS GAME_DIE BOWLING FLOWER_PLAYING_CARDS MUSICAL_NOTE MULTIPLE_MUSICAL_NOTES
  SAXOPHONE GUITAR MUSICAL_KEYBOARD TRUMPET VIOLIN MUSICAL_SCORE RUNNING_SHIRT_WITH_SASH
  TENNIS_RACQUET_AND_BALL SKI_AND_SKI_BOOT BASKETBALL_AND_HOOP CHEQUERED_FLAG SNOWBOARDER RUNNER
  SURFER SPORTS_MEDAL TROPHY HORSE_RACING AMERICAN_FOOTBALL RUGBY_FOOTBALL SWIMMER WEIGHT_LIFTER
  GOLFER RACING_: MOTORCYCLE CAR : CRICKET_BAT_AND_BALL VOLLEYBALL FIELD_HOCKEY_STICK_AND_BALL
  ICE_HOCKEY_STICK_AND_PUCK TABLE_TENNIS_PADDLE_AND_BALL SNOW_CAPPED_MOUNTAIN CAMPING
  BEACH_WITH_UMBRELLA BUILDING_CONSTRUCTION HOUSE_BUILDINGS CITYSCAPE DERELICT_HOUSE_BUILDING
  CLASSICAL_BUILDING DESERT DESERT_ISLAND NATIONAL_PARK STADIUM HOUSE_: BUILDING WITH_GARDEN :
  OFFICE_BUILDING JAPANESE_POST_OFFICE EUROPEAN_POST_OFFICE HOSPITAL BANK AUTOMATED_TELLER_MACHINE
  HOTEL LOVE_HOTEL CONVENIENCE_STORE SCHOOL DEPARTMENT_STORE FACTORY IZAKAYA_LANTERN
  JAPANESE_CASTLE EUROPEAN_CASTLE WHITE_PENNANT BLACK_PENNANT WAVING_: WHITE_FLAG BLACK_FLAG :
  ROSETTE BLACK_ROSETTE LABEL BADMINTON_RACQUET_AND_SHUTTLECOCK BOW_AND_ARROW AMPHORA
  EMOJI_MODIFIER_FITZPATRICK_TYPE-: 1-2 3 4 5 6 : RAT MOUSE OX WATER_BUFFALO COW TIGER LEOPARD
  RABBIT CAT DRAGON CROCODILE WHALE SNAIL SNAKE HORSE RAM GOAT SHEEP MONKEY ROOSTER CHICKEN DOG PIG
  BOAR ELEPHANT OCTOPUS SPIRAL_SHELL BUG ANT HONEYBEE LADY_BEETLE FISH TROPICAL_FISH BLOWFISH
  TURTLE HATCHING_CHICK BABY_CHICK FRONT-FACING_BABY_CHICK BIRD PENGUIN KOALA POODLE
  DROMEDARY_CAMEL BACTRIAN_CAMEL DOLPHIN MOUSE_FACE COW_FACE TIGER_FACE RABBIT_FACE CAT_FACE
  DRAGON_FACE SPOUTING_WHALE HORSE_FACE MONKEY_FACE DOG_FACE PIG_FACE FROG_FACE HAMSTER_FACE
  WOLF_FACE BEAR_FACE PANDA_FACE PIG_NOSE PAW_PRINTS CHIPMUNK EYES EYE EAR NOSE MOUTH TONGUE
  WHITE_: UP_POINTING_BACKHAND_INDEX DOWN_POINTING_BACKHAND_INDEX LEFT_POINTING_BACKHAND_INDEX
  RIGHT_POINTING_BACKHAND_INDEX : FISTED_HAND_SIGN WAVING_HAND_SIGN OK_HAND_SIGN THUMBS_: UP_SIGN
  DOWN_SIGN : CLAPPING_HANDS_SIGN OPEN_HANDS_SIGN CROWN WOMANS_HAT EYEGLASSES NECKTIE T-SHIRT JEANS
  DRESS KIMONO BIKINI WOMANS_CLOTHES PURSE HANDBAG POUCH MANS_SHOE ATHLETIC_SHOE HIGH-HEELED_SHOE
  WOMANS_: SANDAL BOOTS : FOOTPRINTS BUST_IN_SILHOUETTE BUSTS_IN_SILHOUETTE BOY GIRL MAN WOMAN
  FAMILY MAN_AND_WOMAN_HOLDING_HANDS TWO_MEN_HOLDING_HANDS TWO_WOMEN_HOLDING_HANDS POLICE_OFFICER
  WOMAN_WITH_BUNNY_EARS BRIDE_WITH_VEIL PERSON_WITH_BLOND_HAIR MAN_WITH_: GUA_PI_MAO TURBAN OLDER_:
  MAN WOMAN : BABY CONSTRUCTION_WORKER PRINCESS JAPANESE_: OGRE GOBLIN : GHOST BABY_ANGEL
  EXTRATERRESTRIAL_ALIEN ALIEN_MONSTER IMP SKULL INFORMATION_DESK_PERSON GUARDSMAN DANCER LIPSTICK
  NAIL_POLISH FACE_MASSAGE HAIRCUT BARBER_POLE SYRINGE PILL KISS_MARK LOVE_LETTER RING GEM_STONE
  KISS BOUQUET COUPLE_WITH_HEART WEDDING BEATING_HEART BROKEN_HEART TWO_HEARTS SPARKLING_HEART
  GROWING_HEART HEART_WITH_ARROW BLUE_HEART GREEN_HEART YELLOW_HEART PURPLE_HEART HEART_WITH_RIBBON
  REVOLVING_HEARTS HEART_DECORATION DIAMOND_SHAPE_WITH_A_DOT_INSIDE ELECTRIC_LIGHT_BULB
  ANGER_SYMBOL BOMB SLEEPING_SYMBOL COLLISION_SYMBOL SPLASHING_SWEAT_SYMBOL DROPLET DASH_SYMBOL
  PILE_OF_POO FLEXED_BICEPS DIZZY_SYMBOL SPEECH_BALLOON THOUGHT_BALLOON WHITE_FLOWER
  HUNDRED_POINTS_SYMBOL MONEY_BAG CURRENCY_EXCHANGE HEAVY_DOLLAR_SIGN CREDIT_CARD BANKNOTE_WITH_:
  YEN_SIGN DOLLAR_SIGN EURO_SIGN POUND_SIGN : MONEY_WITH_WINGS
  CHART_WITH_UPWARDS_TREND_AND_YEN_SIGN SEAT PERSONAL_COMPUTER BRIEFCASE MINIDISC FLOPPY_DISK
  OPTICAL_DISC DVD FILE_FOLDER OPEN_FILE_FOLDER PAGE_: WITH_CURL FACING_UP : CALENDAR
  TEAR-OFF_CALENDAR CARD_INDEX CHART_WITH_: UPWARDS_TREND DOWNWARDS_TREND : BAR_CHART CLIPBOARD
  PUSHPIN ROUND_PUSHPIN PAPERCLIP STRAIGHT_RULER TRIANGULAR_RULER BOOKMARK_TABS LEDGER NOTEBOOK
  NOTEBOOK_WITH_DECORATIVE_COVER CLOSED_BOOK OPEN_BOOK GREEN_BOOK BLUE_BOOK ORANGE_BOOK BOOKS
  NAME_BADGE SCROLL MEMO TELEPHONE_RECEIVER PAGER FAX_MACHINE SATELLITE_ANTENNA
  PUBLIC_ADDRESS_LOUDSPEAKER CHEERING_MEGAPHONE OUTBOX_TRAY INBOX_TRAY PACKAGE E-MAIL_SYMBOL
  INCOMING_ENVELOPE ENVELOPE_WITH_DOWNWARDS_ARROW_ABOVE CLOSED_MAILBOX_WITH_: LOWERED_FLAG
  RAISED_FLAG OPEN_MAILBOX_WITH_: RAISED_FLAG LOWERED_FLAG : POSTBOX POSTAL_HORN NEWSPAPER MOBILE_:
  PHONE PHONE_WITH_RIGHTWARDS_ARROW_AT_LEFT : VIBRATION_MODE MOBILE_PHONE_OFF NO_MOBILE_PHONES
  ANTENNA_WITH_BARS CAMERA CAMERA_WITH_FLASH VIDEO_CAMERA TELEVISION RADIO VIDEOCASSETTE
  FILM_PROJECTOR PORTABLE_STEREO PRAYER_BEADS TWISTED_RIGHTWARDS_ARROWS
  CLOCKWISE_RIGHTWARDS_AND_LEFTWARDS_OPEN_CIRCLE_: ARROWS ARROWS_WITH_CIRCLED_ONE_OVERLAY :
  CLOCKWISE_DOWNWARDS_AND_UPWARDS_OPEN_CIRCLE_ARROWS
  ANTICLOCKWISE_DOWNWARDS_AND_UPWARDS_OPEN_CIRCLE_ARROWS LOW_BRIGHTNESS_SYMBOL
  HIGH_BRIGHTNESS_SYMBOL SPEAKER_WITH_CANCELLATION_STROKE SPEAKER SPEAKER_WITH_: ONE_SOUND_WAVE
  THREE_SOUND_WAVES : BATTERY ELECTRIC_PLUG LEFT-POINTING_MAGNIFYING_GLASS
  RIGHT-POINTING_MAGNIFYING_GLASS LOCK_WITH_INK_PEN CLOSED_LOCK_WITH_KEY KEY LOCK OPEN_LOCK BELL
  BELL_WITH_CANCELLATION_STROKE BOOKMARK LINK_SYMBOL RADIO_BUTTON BACK_WITH_LEFTWARDS_ARROW_ABOVE
  END_WITH_LEFTWARDS_ARROW_ABOVE ON_WITH_EXCLAMATION_MARK_WITH_LEFT_RIGHT_ARROW_ABOVE
  SOON_WITH_RIGHTWARDS_ARROW_ABOVE TOP_WITH_UPWARDS_ARROW_ABOVE NO_ONE_UNDER_EIGHTEEN_SYMBOL
  KEYCAP_TEN INPUT_SYMBOL_FOR_: LATIN_CAPITAL_LETTERS LATIN_SMALL_LETTERS NUMBERS SYMBOLS
  LATIN_LETTERS : FIRE ELECTRIC_TORCH WRENCH HAMMER NUT_AND_BOLT HOCHO PISTOL MICROSCOPE TELESCOPE
  CRYSTAL_BALL SIX_POINTED_STAR_WITH_MIDDLE_DOT JAPANESE_SYMBOL_FOR_BEGINNER TRIDENT_EMBLEM
  BLACK_SQUARE_BUTTON WHITE_SQUARE_BUTTON LARGE_: RED_CIRCLE BLUE_CIRCLE ORANGE_DIAMOND
  BLUE_DIAMOND SMALL_: ORANGE_DIAMOND BLUE_DIAMOND : UP-POINTING_RED_TRIANGLE
  DOWN-POINTING_RED_TRIANGLE UP-POINTING_SMALL_RED_TRIANGLE DOWN-POINTING_SMALL_RED_TRIANGLE
  LOWER_RIGHT_SHADOWED_WHITE_CIRCLE UPPER_RIGHT_SHADOWED_WHITE_CIRCLE CIRCLED_CROSS_POMMEE CROSS_:
  POMMEE_WITH_HALF-CIRCLE_BELOW POMMEE NOTCHED_: LEFT_SEMICIRCLE_WITH_THREE_DOTS
  RIGHT_SEMICIRCLE_WITH_THREE_DOTS : SYMBOL_FOR_MARKS_CHAPTER WHITE_LATIN_CROSS HEAVY_LATIN_CROSS
  CELTIC_CROSS OM_SYMBOL DOVE_OF_PEACE KAABA MOSQUE SYNAGOGUE MENORAH_WITH_NINE_BRANCHES
  BOWL_OF_HYGIEIA CLOCK_FACE_: ONE_OCLOCK TWO_OCLOCK THREE_OCLOCK FOUR_OCLOCK FIVE_OCLOCK
  SIX_OCLOCK SEVEN_OCLOCK EIGHT_OCLOCK NINE_OCLOCK TEN_OCLOCK ELEVEN_OCLOCK TWELVE_OCLOCK
  ONE-THIRTY TWO-THIRTY THREE-THIRTY FOUR-THIRTY FIVE-THIRTY SIX-THIRTY SEVEN-THIRTY EIGHT-THIRTY
  NINE-THIRTY TEN-THIRTY ELEVEN-THIRTY TWELVE-THIRTY RIGHT_: SPEAKER RIGHT_SPEAKER_WITH_:
  ONE_SOUND_WAVE THREE_SOUND_WAVES : BULLHORN BULLHORN_WITH_SOUND_WAVES RINGING_BELL BOOK CANDLE
  MANTELPIECE_CLOCK BLACK_SKULL_AND_CROSSBONES NO_PIRACY HOLE MAN_IN_BUSINESS_SUIT_LEVITATING
  SLEUTH_OR_SPY DARK_SUNGLASSES SPIDER SPIDER_WEB JOYSTICK MAN_DANCING LEFT_HAND_TELEPHONE_RECEIVER
  TELEPHONE_RECEIVER_WITH_PAGE RIGHT_HAND_TELEPHONE_RECEIVER WHITE_TOUCHTONE_TELEPHONE
  BLACK_TOUCHTONE_TELEPHONE TELEPHONE_ON_TOP_OF_MODEM CLAMSHELL_MOBILE_PHONE BACK_OF_ENVELOPE
  STAMPED_ENVELOPE ENVELOPE_WITH_LIGHTNING FLYING_ENVELOPE PEN_OVER_STAMPED_ENVELOPE
  LINKED_PAPERCLIPS BLACK_PUSHPIN LOWER_LEFT_: PENCIL BALLPOINT_PEN FOUNTAIN_PEN PAINTBRUSH CRAYON
  : LEFT_WRITING_HAND TURNED_OK_HAND_SIGN RAISED_HAND_WITH_FINGERS_SPLAYED REVERSED_:
  RAISED_HAND_WITH_FINGERS_SPLAYED THUMBS_UP_SIGN THUMBS_DOWN_SIGN VICTORY_HAND
  HAND_WITH_MIDDLE_FINGER_EXTENDED : RAISED_HAND_WITH_PART_BETWEEN_MIDDLE_AND_RING_FINGERS
  WHITE_DOWN_POINTING_LEFT_HAND_INDEX SIDEWAYS_WHITE_: LEFT_POINTING_INDEX RIGHT_POINTING_INDEX
  SIDEWAYS_BLACK_: LEFT_POINTING_INDEX RIGHT_POINTING_INDEX BLACK_: LEFT_POINTING_BACKHAND_INDEX
  RIGHT_POINTING_BACKHAND_INDEX SIDEWAYS_WHITE_: UP_POINTING_INDEX DOWN_POINTING_INDEX
  SIDEWAYS_BLACK_: UP_POINTING_INDEX DOWN_POINTING_INDEX BLACK_: UP_POINTING_BACKHAND_INDEX
  DOWN_POINTING_BACKHAND_INDEX HEART : DESKTOP_COMPUTER KEYBOARD_AND_MOUSE
  THREE_NETWORKED_COMPUTERS PRINTER POCKET_CALCULATOR BLACK_HARD_SHELL_FLOPPY_DISK
  WHITE_HARD_SHELL_FLOPPY_DISK SOFT_SHELL_FLOPPY_DISK TAPE_CARTRIDGE WIRED_KEYBOARD
  ONE_BUTTON_MOUSE TWO_BUTTON_MOUSE THREE_BUTTON_MOUSE TRACKBALL OLD_PERSONAL_COMPUTER HARD_DISK
  SCREEN PRINTER_ICON FAX_ICON OPTICAL_DISC_ICON DOCUMENT_WITH_: TEXT TEXT_AND_PICTURE PICTURE
  FRAME_WITH_: PICTURE TILES AN_X : BLACK_FOLDER FOLDER OPEN_FOLDER CARD_: INDEX_DIVIDERS FILE_BOX
  FILE_: CABINET EMPTY_: NOTE NOTE_PAGE NOTE_PAD : NOTE NOTE_: PAGE PAD EMPTY_: DOCUMENT PAGE PAGES
  : DOCUMENT PAGE PAGES WASTEBASKET SPIRAL_: NOTE_PAD CALENDAR_PAD : DESKTOP_WINDOW MINIMIZE
  MAXIMIZE OVERLAP CLOCKWISE_RIGHT_AND_LEFT_SEMICIRCLE_ARROWS CANCELLATION_X
  INCREASE_FONT_SIZE_SYMBOL DECREASE_FONT_SIZE_SYMBOL COMPRESSION OLD_KEY ROLLED-UP_NEWSPAPER
  PAGE_WITH_CIRCLED_TEXT STOCK_CHART DAGGER_KNIFE LIPS SPEAKING_HEAD_IN_SILHOUETTE THREE_RAYS_:
  ABOVE BELOW LEFT RIGHT : LEFT_SPEECH_BUBBLE RIGHT_SPEECH_BUBBLE TWO_SPEECH_BUBBLES
  THREE_SPEECH_BUBBLES LEFT_THOUGHT_BUBBLE RIGHT_THOUGHT_BUBBLE LEFT_ANGER_BUBBLE
  RIGHT_ANGER_BUBBLE MOOD_BUBBLE LIGHTNING_: MOOD_BUBBLE MOOD BALLOT_: BOX_WITH_BALLOT SCRIPT_X
  BOX_WITH_SCRIPT_X BOLD_SCRIPT_X BOX_WITH_BOLD_SCRIPT_X : LIGHT_CHECK_MARK
  BALLOT_BOX_WITH_BOLD_CHECK WORLD_MAP MOUNT_FUJI TOKYO_TOWER STATUE_OF_LIBERTY SILHOUETTE_OF_JAPAN
  MOYAI GRINNING_: FACE FACE_WITH_SMILING_EYES FACE_WITH_TEARS_OF_: JOY SMILING_FACE_WITH_:
  OPEN_MOUTH OPEN_MOUTH_AND_SMILING_EYES OPEN_MOUTH_AND_COLD_SWEAT
  OPEN_MOUTH_AND_TIGHTLY-CLOSED_EYES HALO HORNS : WINKING_FACE SMILING_FACE_WITH_SMILING_EYES
  FACE_SAVOURING_DELICIOUS_FOOD RELIEVED_FACE SMILING_FACE_WITH_: HEART-SHAPED_EYES SUNGLASSES :
  SMIRKING_FACE NEUTRAL_FACE EXPRESSIONLESS_FACE UNAMUSED_FACE FACE_WITH_COLD_SWEAT PENSIVE_FACE
  CONFUSED_FACE CONFOUNDED_FACE KISSING_FACE FACE_THROWING_A_KISS KISSING_FACE_WITH_: SMILING_EYES
  CLOSED_EYES FACE_WITH_STUCK-OUT_: TONGUE TONGUE_AND_WINKING_EYE TONGUE_AND_TIGHTLY-CLOSED_EYES :
  DISAPPOINTED_FACE WORRIED_FACE ANGRY_FACE POUTING_FACE CRYING_FACE PERSEVERING_FACE
  FACE_WITH_LOOK_OF_TRIUMPH DISAPPOINTED_BUT_RELIEVED_FACE FROWNING_FACE_WITH_OPEN_MOUTH
  ANGUISHED_FACE FEARFUL_FACE WEARY_FACE SLEEPY_FACE TIRED_FACE GRIMACING_FACE LOUDLY_CRYING_FACE
  FACE_WITH_OPEN_MOUTH HUSHED_FACE FACE_: WITH_OPEN_MOUTH_AND_COLD_SWEAT SCREAMING_IN_FEAR :
  ASTONISHED_FACE FLUSHED_FACE SLEEPING_FACE DIZZY_FACE FACE_: WITHOUT_MOUTH WITH_MEDICAL_MASK :
  GRINNING_CAT_FACE_WITH_SMILING_EYES CAT_FACE_WITH_TEARS_OF_JOY SMILING_CAT_FACE_WITH_: OPEN_MOUTH
  HEART-SHAPED_EYES : CAT_FACE_WITH_WRY_SMILE KISSING_CAT_FACE_WITH_CLOSED_EYES POUTING_CAT_FACE
  CRYING_CAT_FACE WEARY_CAT_FACE SLIGHTLY_: FROWNING_FACE SMILING_FACE UPSIDE-DOWN_: FACE
  FACE_WITH_: ROLLING_EYES NO_GOOD_GESTURE OK_GESTURE : PERSON_BOWING_DEEPLY SEE-NO-EVIL_MONKEY
  HEAR-NO-EVIL_MONKEY SPEAK-NO-EVIL_MONKEY HAPPY_PERSON_RAISING_ONE_HAND PERSON_:
  RAISING_BOTH_HANDS_IN_CELEBRATION FROWNING WITH_POUTING_FACE WITH_FOLDED_HANDS :
  NORTH_WEST_POINTING_LEAF SOUTH_WEST_POINTING_LEAF NORTH_EAST_POINTING_LEAF
  SOUTH_EAST_POINTING_LEAF TURNED_: NORTH_WEST_POINTING_LEAF SOUTH_WEST_POINTING_LEAF
  NORTH_EAST_POINTING_LEAF SOUTH_EAST_POINTING_LEAF : NORTH_WEST_POINTING_VINE_LEAF
  SOUTH_WEST_POINTING_VINE_LEAF NORTH_EAST_POINTING_VINE_LEAF SOUTH_EAST_POINTING_VINE_LEAF HEAVY_:
  NORTH_WEST_POINTING_VINE_LEAF SOUTH_WEST_POINTING_VINE_LEAF NORTH_EAST_POINTING_VINE_LEAF
  SOUTH_EAST_POINTING_VINE_LEAF : NORTH_WEST_POINTING_BUD SOUTH_WEST_POINTING_BUD
  NORTH_EAST_POINTING_BUD SOUTH_EAST_POINTING_BUD HEAVY_: NORTH_WEST_POINTING_BUD
  SOUTH_WEST_POINTING_BUD NORTH_EAST_POINTING_BUD SOUTH_EAST_POINTING_BUD HOLLOW_QUILT_SQUARE_:
  ORNAMENT ORNAMENT_IN_BLACK_SQUARE SOLID_QUILT_SQUARE_: ORNAMENT ORNAMENT_IN_BLACK_SQUARE :
  LEFTWARDS_ROCKET UPWARDS_ROCKET RIGHTWARDS_ROCKET DOWNWARDS_ROCKET SCRIPT_LIGATURE_ET_ORNAMENT
  HEAVY_SCRIPT_LIGATURE_ET_ORNAMENT LIGATURE_OPEN_ET_ORNAMENT HEAVY_: LIGATURE_OPEN_ET_ORNAMENT
  AMPERSAND_ORNAMENT SWASH_AMPERSAND_: ORNAMENT SANS-SERIF_HEAVY_:
  DOUBLE_TURNED_COMMA_QUOTATION_MARK_ORNAMENT DOUBLE_COMMA_QUOTATION_MARK_ORNAMENT
  LOW_DOUBLE_COMMA_QUOTATION_MARK_ORNAMENT : HEAVY_INTERROBANG_ORNAMENT
  SANS-SERIF_INTERROBANG_ORNAMENT HEAVY_SANS-SERIF_INTERROBANG_ORNAMENT VERY_HEAVY_: SOLIDUS
  REVERSE_SOLIDUS : CHECKER_BOARD REVERSE_CHECKER_BOARD ROCKET HELICOPTER STEAM_LOCOMOTIVE
  RAILWAY_CAR HIGH-SPEED_: TRAIN TRAIN_WITH_BULLET_NOSE : TRAIN METRO LIGHT_RAIL STATION TRAM
  TRAM_CAR BUS ONCOMING_BUS TROLLEYBUS BUS_STOP MINIBUS AMBULANCE FIRE_ENGINE POLICE_CAR
  ONCOMING_POLICE_CAR TAXI ONCOMING_TAXI AUTOMOBILE ONCOMING_AUTOMOBILE RECREATIONAL_VEHICLE
  DELIVERY_TRUCK ARTICULATED_LORRY TRACTOR MONORAIL MOUNTAIN_RAILWAY SUSPENSION_RAILWAY
  MOUNTAIN_CABLEWAY AERIAL_TRAMWAY SHIP ROWBOAT SPEEDBOAT HORIZONTAL_TRAFFIC_LIGHT
  VERTICAL_TRAFFIC_LIGHT CONSTRUCTION_SIGN POLICE_CARS_REVOLVING_LIGHT TRIANGULAR_FLAG_ON_POST DOOR
  NO_ENTRY_SIGN SMOKING_SYMBOL NO_SMOKING_SYMBOL PUT_LITTER_IN_ITS_PLACE_SYMBOL
  DO_NOT_LITTER_SYMBOL POTABLE_WATER_SYMBOL NON-POTABLE_WATER_SYMBOL BICYCLE NO_BICYCLES BICYCLIST
  MOUNTAIN_BICYCLIST PEDESTRIAN NO_PEDESTRIANS CHILDREN_CROSSING MENS_SYMBOL WOMENS_SYMBOL RESTROOM
  BABY_SYMBOL TOILET WATER_CLOSET SHOWER BATH BATHTUB PASSPORT_CONTROL CUSTOMS BAGGAGE_CLAIM
  LEFT_LUGGAGE TRIANGLE_WITH_ROUNDED_CORNERS PROHIBITED_SIGN CIRCLED_INFORMATION_SOURCE BOYS_SYMBOL
  GIRLS_SYMBOL COUCH_AND_LAMP SLEEPING_ACCOMMODATION SHOPPING_BAGS BELLHOP_BELL BED
  PLACE_OF_WORSHIP OCTAGONAL_SIGN SHOPPING_TROLLEY STUPA PAGODA HINDU_TEMPLE HUT ELEVATOR @1F6DD
  PLAYGROUND_SLIDE WHEEL RING_BUOY HAMMER_AND_WRENCH SHIELD OIL_DRUM MOTORWAY RAILWAY_TRACK
  MOTOR_BOAT UP-POINTING_: MILITARY_AIRPLANE AIRPLANE SMALL_AIRPLANE : SMALL_AIRPLANE
  NORTHEAST-POINTING_AIRPLANE AIRPLANE_: DEPARTURE ARRIVING @1F6F0 : SATELLITE ONCOMING_FIRE_ENGINE
  DIESEL_LOCOMOTIVE PASSENGER_SHIP SCOOTER MOTOR_SCOOTER CANOE SLED FLYING_SAUCER SKATEBOARD
  AUTO_RICKSHAW PICKUP_TRUCK ROLLER_SKATE @1F700 ALCHEMICAL_SYMBOL_FOR_: QUINTESSENCE AIR FIRE
  EARTH WATER AQUAFORTIS AQUA_REGIA AQUA_REGIA-2 AQUA_VITAE AQUA_VITAE-2 VINEGAR VINEGAR-2
  VINEGAR-3 SULFUR PHILOSOPHERS_SULFUR BLACK_SULFUR MERCURY_SUBLIMATE MERCURY_SUBLIMATE-2
  MERCURY_SUBLIMATE-3 CINNABAR SALT NITRE VITRIOL VITRIOL-2 ROCK_SALT ROCK_SALT-2 GOLD SILVER
  IRON_ORE IRON_ORE-2 CROCUS_OF_IRON REGULUS_OF_IRON COPPER_ORE IRON-COPPER_ORE SUBLIMATE_OF_COPPER
  CROCUS_OF_COPPER CROCUS_OF_COPPER-2 COPPER_ANTIMONIATE SALT_OF_COPPER_ANTIMONIATE
  SUBLIMATE_OF_SALT_OF_COPPER VERDIGRIS TIN_ORE LEAD_ORE ANTIMONY_ORE SUBLIMATE_OF_ANTIMONY
  SALT_OF_ANTIMONY SUBLIMATE_OF_SALT_OF_ANTIMONY VINEGAR_OF_ANTIMONY REGULUS_OF_ANTIMONY
  REGULUS_OF_ANTIMONY-2 REGULUS REGULUS-2 REGULUS-3 REGULUS-4 ALKALI ALKALI-2 MARCASITE
  SAL-AMMONIAC ARSENIC REALGAR REALGAR-2 AURIPIGMENT BISMUTH_ORE TARTAR TARTAR-2 QUICK_LIME BORAX
  BORAX-2 BORAX-3 ALUM OIL SPIRIT TINCTURE GUM WAX POWDER CALX TUTTY CAPUT_MORTUUM SCEPTER_OF_JOVE
  CADUCEUS TRIDENT STARRED_TRIDENT LODESTONE SOAP URINE HORSE_DUNG ASHES POT_ASHES BRICK
  POWDERED_BRICK AMALGAM STRATUM_SUPER_STRATUM STRATUM_SUPER_STRATUM-2 SUBLIMATION PRECIPITATE
  DISTILL DISSOLVE DISSOLVE-2 PURIFY PUTREFACTION CRUCIBLE CRUCIBLE-2 CRUCIBLE-3 CRUCIBLE-4
  CRUCIBLE-5 ALEMBIC BATH_OF_MARY BATH_OF_VAPOURS RETORT HOUR NIGHT DAY-NIGHT MONTH HALF_DRAM
  HALF_OUNCE @1F780 BLACK_: LEFT-POINTING_ISOSCELES_RIGHT_TRIANGLE
  UP-POINTING_ISOSCELES_RIGHT_TRIANGLE RIGHT-POINTING_ISOSCELES_RIGHT_TRIANGLE
  DOWN-POINTING_ISOSCELES_RIGHT_TRIANGLE SLIGHTLY_SMALL_CIRCLE : MEDIUM_BOLD_WHITE_CIRCLE
  BOLD_WHITE_CIRCLE HEAVY_WHITE_CIRCLE VERY_HEAVY_WHITE_CIRCLE EXTREMELY_HEAVY_WHITE_CIRCLE
  WHITE_CIRCLE_CONTAINING_BLACK_SMALL_CIRCLE ROUND_TARGET BLACK_: TINY_SQUARE SLIGHTLY_SMALL_SQUARE
  : LIGHT_WHITE_SQUARE MEDIUM_WHITE_SQUARE BOLD_WHITE_SQUARE HEAVY_WHITE_SQUARE
  VERY_HEAVY_WHITE_SQUARE EXTREMELY_HEAVY_WHITE_SQUARE WHITE_SQUARE_CONTAINING_BLACK_:
  VERY_SMALL_SQUARE MEDIUM_SQUARE SQUARE_: TARGET BLACK_: TINY_DIAMOND VERY_SMALL_DIAMOND
  MEDIUM_SMALL_DIAMOND WHITE_DIAMOND_CONTAINING_BLACK_: VERY_SMALL_DIAMOND MEDIUM_DIAMOND DIAMOND_:
  TARGET BLACK_: TINY_LOZENGE VERY_SMALL_LOZENGE MEDIUM_SMALL_LOZENGE :
  WHITE_LOZENGE_CONTAINING_BLACK_SMALL_LOZENGE THIN_GREEK_CROSS LIGHT_GREEK_CROSS
  MEDIUM_GREEK_CROSS BOLD_GREEK_CROSS VERY_: BOLD_GREEK_CROSS HEAVY_GREEK_CROSS :
  EXTREMELY_HEAVY_GREEK_CROSS THIN_SALTIRE LIGHT_SALTIRE MEDIUM_SALTIRE BOLD_SALTIRE HEAVY_SALTIRE
  VERY_HEAVY_SALTIRE EXTREMELY_HEAVY_SALTIRE LIGHT_FIVE_SPOKED_ASTERISK MEDIUM_FIVE_SPOKED_ASTERISK
  BOLD_FIVE_SPOKED_ASTERISK HEAVY_FIVE_SPOKED_ASTERISK VERY_HEAVY_FIVE_SPOKED_ASTERISK
  EXTREMELY_HEAVY_FIVE_SPOKED_ASTERISK LIGHT_SIX_SPOKED_ASTERISK MEDIUM_SIX_SPOKED_ASTERISK
  BOLD_SIX_SPOKED_ASTERISK HEAVY_SIX_SPOKED_ASTERISK VERY_HEAVY_SIX_SPOKED_ASTERISK
  EXTREMELY_HEAVY_SIX_SPOKED_ASTERISK LIGHT_EIGHT_SPOKED_ASTERISK MEDIUM_EIGHT_SPOKED_ASTERISK
  BOLD_EIGHT_SPOKED_ASTERISK HEAVY_EIGHT_SPOKED_ASTERISK VERY_HEAVY_EIGHT_SPOKED_ASTERISK
  LIGHT_THREE_POINTED_BLACK_STAR MEDIUM_THREE_POINTED_BLACK_STAR THREE_POINTED_BLACK_STAR
  MEDIUM_THREE_POINTED_PINWHEEL_STAR LIGHT_FOUR_POINTED_BLACK_STAR MEDIUM_FOUR_POINTED_BLACK_STAR
  FOUR_POINTED_BLACK_STAR MEDIUM_FOUR_POINTED_PINWHEEL_STAR
  REVERSE_LIGHT_FOUR_POINTED_PINWHEEL_STAR LIGHT_FIVE_POINTED_BLACK_STAR
  HEAVY_FIVE_POINTED_BLACK_STAR MEDIUM_SIX_POINTED_BLACK_STAR HEAVY_SIX_POINTED_BLACK_STAR
  SIX_POINTED_PINWHEEL_STAR MEDIUM_EIGHT_POINTED_BLACK_STAR HEAVY_EIGHT_POINTED_BLACK_STAR
  VERY_HEAVY_EIGHT_POINTED_BLACK_STAR HEAVY_EIGHT_POINTED_PINWHEEL_STAR
  LIGHT_TWELVE_POINTED_BLACK_STAR HEAVY_TWELVE_POINTED_: BLACK_STAR PINWHEEL_STAR :
  CIRCLED_TRIANGLE NEGATIVE_CIRCLED_TRIANGLE CIRCLED_SQUARE NEGATIVE_CIRCLED_SQUARE @1F7E0 LARGE_:
  ORANGE_CIRCLE YELLOW_CIRCLE GREEN_CIRCLE PURPLE_CIRCLE BROWN_CIRCLE RED_SQUARE BLUE_SQUARE
  ORANGE_SQUARE YELLOW_SQUARE GREEN_SQUARE PURPLE_SQUARE BROWN_SQUARE @1F7F0 HEAVY_EQUALS_: SIGN
  @1F800 : LEFTWARDS_ARROW_WITH_SMALL_TRIANGLE_ARROWHEAD
  UPWARDS_ARROW_WITH_SMALL_TRIANGLE_ARROWHEAD RIGHTWARDS_ARROW_WITH_SMALL_TRIANGLE_ARROWHEAD
  DOWNWARDS_ARROW_WITH_SMALL_TRIANGLE_ARROWHEAD LEFTWARDS_ARROW_WITH_MEDIUM_TRIANGLE_ARROWHEAD
  UPWARDS_ARROW_WITH_MEDIUM_TRIANGLE_ARROWHEAD RIGHTWARDS_ARROW_WITH_MEDIUM_TRIANGLE_ARROWHEAD
  DOWNWARDS_ARROW_WITH_MEDIUM_TRIANGLE_ARROWHEAD LEFTWARDS_ARROW_WITH_LARGE_TRIANGLE_ARROWHEAD
  UPWARDS_ARROW_WITH_LARGE_TRIANGLE_ARROWHEAD RIGHTWARDS_ARROW_WITH_LARGE_TRIANGLE_ARROWHEAD
  DOWNWARDS_ARROW_WITH_LARGE_TRIANGLE_ARROWHEAD @1F810
  LEFTWARDS_ARROW_WITH_SMALL_EQUILATERAL_ARROWHEAD UPWARDS_ARROW_WITH_SMALL_EQUILATERAL_ARROWHEAD
  RIGHTWARDS_ARROW_WITH_SMALL_EQUILATERAL_ARROWHEAD
  DOWNWARDS_ARROW_WITH_SMALL_EQUILATERAL_ARROWHEAD LEFTWARDS_ARROW_WITH_EQUILATERAL_ARROWHEAD
  UPWARDS_ARROW_WITH_EQUILATERAL_ARROWHEAD RIGHTWARDS_ARROW_WITH_EQUILATERAL_ARROWHEAD
  DOWNWARDS_ARROW_WITH_EQUILATERAL_ARROWHEAD HEAVY_: LEFTWARDS_ARROW_WITH_EQUILATERAL_ARROWHEAD
  UPWARDS_ARROW_WITH_EQUILATERAL_ARROWHEAD RIGHTWARDS_ARROW_WITH_EQUILATERAL_ARROWHEAD
  DOWNWARDS_ARROW_WITH_EQUILATERAL_ARROWHEAD LEFTWARDS_ARROW_WITH_LARGE_EQUILATERAL_ARROWHEAD
  UPWARDS_ARROW_WITH_LARGE_EQUILATERAL_ARROWHEAD RIGHTWARDS_ARROW_WITH_LARGE_EQUILATERAL_ARROWHEAD
  DOWNWARDS_ARROW_WITH_LARGE_EQUILATERAL_ARROWHEAD :
  LEFTWARDS_TRIANGLE-HEADED_ARROW_WITH_NARROW_SHAFT UPWARDS_TRIANGLE-HEADED_ARROW_WITH_NARROW_SHAFT
  RIGHTWARDS_TRIANGLE-HEADED_ARROW_WITH_NARROW_SHAFT
  DOWNWARDS_TRIANGLE-HEADED_ARROW_WITH_NARROW_SHAFT
  LEFTWARDS_TRIANGLE-HEADED_ARROW_WITH_MEDIUM_SHAFT UPWARDS_TRIANGLE-HEADED_ARROW_WITH_MEDIUM_SHAFT
  RIGHTWARDS_TRIANGLE-HEADED_ARROW_WITH_MEDIUM_SHAFT
  DOWNWARDS_TRIANGLE-HEADED_ARROW_WITH_MEDIUM_SHAFT LEFTWARDS_TRIANGLE-HEADED_ARROW_WITH_BOLD_SHAFT
  UPWARDS_TRIANGLE-HEADED_ARROW_WITH_BOLD_SHAFT RIGHTWARDS_TRIANGLE-HEADED_ARROW_WITH_BOLD_SHAFT
  DOWNWARDS_TRIANGLE-HEADED_ARROW_WITH_BOLD_SHAFT LEFTWARDS_TRIANGLE-HEADED_ARROW_WITH_HEAVY_SHAFT
  UPWARDS_TRIANGLE-HEADED_ARROW_WITH_HEAVY_SHAFT RIGHTWARDS_TRIANGLE-HEADED_ARROW_WITH_HEAVY_SHAFT
  DOWNWARDS_TRIANGLE-HEADED_ARROW_WITH_HEAVY_SHAFT
  LEFTWARDS_TRIANGLE-HEADED_ARROW_WITH_VERY_HEAVY_SHAFT
  UPWARDS_TRIANGLE-HEADED_ARROW_WITH_VERY_HEAVY_SHAFT
  RIGHTWARDS_TRIANGLE-HEADED_ARROW_WITH_VERY_HEAVY_SHAFT
  DOWNWARDS_TRIANGLE-HEADED_ARROW_WITH_VERY_HEAVY_SHAFT LEFTWARDS_FINGER-POST_ARROW
  UPWARDS_FINGER-POST_ARROW RIGHTWARDS_FINGER-POST_ARROW DOWNWARDS_FINGER-POST_ARROW
  LEFTWARDS_SQUARED_ARROW UPWARDS_SQUARED_ARROW RIGHTWARDS_SQUARED_ARROW DOWNWARDS_SQUARED_ARROW
  LEFTWARDS_COMPRESSED_ARROW UPWARDS_COMPRESSED_ARROW RIGHTWARDS_COMPRESSED_ARROW
  DOWNWARDS_COMPRESSED_ARROW LEFTWARDS_HEAVY_COMPRESSED_ARROW UPWARDS_HEAVY_COMPRESSED_ARROW
  RIGHTWARDS_HEAVY_COMPRESSED_ARROW DOWNWARDS_HEAVY_COMPRESSED_ARROW LEFTWARDS_HEAVY_ARROW
  UPWARDS_HEAVY_ARROW RIGHTWARDS_HEAVY_ARROW DOWNWARDS_HEAVY_ARROW @1F850
  LEFTWARDS_SANS-SERIF_ARROW UPWARDS_SANS-SERIF_ARROW RIGHTWARDS_SANS-SERIF_ARROW
  DOWNWARDS_SANS-SERIF_ARROW NORTH_: WEST_SANS-SERIF_ARROW EAST_SANS-SERIF_ARROW SOUTH_:
  EAST_SANS-SERIF_ARROW WEST_SANS-SERIF_ARROW : LEFT_RIGHT_SANS-SERIF_ARROW
  UP_DOWN_SANS-SERIF_ARROW @1F860 WIDE-HEADED_: LEFTWARDS_LIGHT_BARB_ARROW UPWARDS_LIGHT_BARB_ARROW
  RIGHTWARDS_LIGHT_BARB_ARROW DOWNWARDS_LIGHT_BARB_ARROW NORTH_WEST_LIGHT_BARB_ARROW
  NORTH_EAST_LIGHT_BARB_ARROW SOUTH_EAST_LIGHT_BARB_ARROW SOUTH_WEST_LIGHT_BARB_ARROW
  LEFTWARDS_BARB_ARROW UPWARDS_BARB_ARROW RIGHTWARDS_BARB_ARROW DOWNWARDS_BARB_ARROW
  NORTH_WEST_BARB_ARROW NORTH_EAST_BARB_ARROW SOUTH_EAST_BARB_ARROW SOUTH_WEST_BARB_ARROW
  LEFTWARDS_MEDIUM_BARB_ARROW UPWARDS_MEDIUM_BARB_ARROW RIGHTWARDS_MEDIUM_BARB_ARROW
  DOWNWARDS_MEDIUM_BARB_ARROW NORTH_WEST_MEDIUM_BARB_ARROW NORTH_EAST_MEDIUM_BARB_ARROW
  SOUTH_EAST_MEDIUM_BARB_ARROW SOUTH_WEST_MEDIUM_BARB_ARROW LEFTWARDS_HEAVY_BARB_ARROW
  UPWARDS_HEAVY_BARB_ARROW RIGHTWARDS_HEAVY_BARB_ARROW DOWNWARDS_HEAVY_BARB_ARROW
  NORTH_WEST_HEAVY_BARB_ARROW NORTH_EAST_HEAVY_BARB_ARROW SOUTH_EAST_HEAVY_BARB_ARROW
  SOUTH_WEST_HEAVY_BARB_ARROW LEFTWARDS_VERY_HEAVY_BARB_ARROW UPWARDS_VERY_HEAVY_BARB_ARROW
  RIGHTWARDS_VERY_HEAVY_BARB_ARROW DOWNWARDS_VERY_HEAVY_BARB_ARROW NORTH_WEST_VERY_HEAVY_BARB_ARROW
  NORTH_EAST_VERY_HEAVY_BARB_ARROW SOUTH_EAST_VERY_HEAVY_BARB_ARROW
  SOUTH_WEST_VERY_HEAVY_BARB_ARROW @1F890 : LEFTWARDS_TRIANGLE_ARROWHEAD UPWARDS_TRIANGLE_ARROWHEAD
  RIGHTWARDS_TRIANGLE_ARROWHEAD DOWNWARDS_TRIANGLE_ARROWHEAD
  LEFTWARDS_WHITE_ARROW_WITHIN_TRIANGLE_ARROWHEAD UPWARDS_WHITE_ARROW_WITHIN_TRIANGLE_ARROWHEAD
  RIGHTWARDS_WHITE_ARROW_WITHIN_TRIANGLE_ARROWHEAD DOWNWARDS_WHITE_ARROW_WITHIN_TRIANGLE_ARROWHEAD
  LEFTWARDS_ARROW_WITH_NOTCHED_TAIL UPWARDS_ARROW_WITH_NOTCHED_TAIL
  RIGHTWARDS_ARROW_WITH_NOTCHED_TAIL DOWNWARDS_ARROW_WITH_NOTCHED_TAIL HEAVY_ARROW_SHAFT_WIDTH_:
  ONE TWO_THIRDS ONE_HALF ONE_THIRD : LEFTWARDS_BOTTOM-SHADED_WHITE_ARROW
  RIGHTWARDS_BOTTOM_SHADED_WHITE_ARROW LEFTWARDS_TOP_SHADED_WHITE_ARROW
  RIGHTWARDS_TOP_SHADED_WHITE_ARROW LEFTWARDS_LEFT-SHADED_WHITE_ARROW
  RIGHTWARDS_RIGHT-SHADED_WHITE_ARROW LEFTWARDS_RIGHT-SHADED_WHITE_ARROW
  RIGHTWARDS_LEFT-SHADED_WHITE_ARROW LEFTWARDS_BACK-TILTED_SHADOWED_WHITE_ARROW
  RIGHTWARDS_BACK-TILTED_SHADOWED_WHITE_ARROW LEFTWARDS_FRONT-TILTED_SHADOWED_WHITE_ARROW
  RIGHTWARDS_FRONT-TILTED_SHADOWED_WHITE_ARROW WHITE_ARROW_SHAFT_WIDTH_: ONE TWO_THIRDS @1F8B0
  ARROW_POINTING_: UPWARDS_THEN_NORTH_WEST RIGHTWARDS_THEN_CURVING_SOUTH_WEST @1F900
  CIRCLED_CROSS_: FORMEE_WITH_FOUR_DOTS FORMEE_WITH_TWO_DOTS FORMEE LEFT_HALF_CIRCLE_WITH_:
  FOUR_DOTS THREE_DOTS TWO_DOTS DOT LEFT_HALF_: CIRCLE DOWNWARD_FACING_: HOOK NOTCHED_HOOK
  HOOK_WITH_DOT NOTCHED_HOOK_WITH_DOT : PINCHED_FINGERS WHITE_HEART BROWN_HEART PINCHING_HAND
  ZIPPER-MOUTH_FACE MONEY-MOUTH_FACE FACE_WITH_THERMOMETER NERD_FACE THINKING_FACE
  FACE_WITH_HEAD-BANDAGE ROBOT_FACE HUGGING_FACE SIGN_OF_THE_HORNS CALL_ME_HAND RAISED_BACK_OF_HAND
  LEFT-FACING_FIST RIGHT-FACING_FIST HANDSHAKE HAND_WITH_INDEX_AND_MIDDLE_FINGERS_CROSSED
  I_LOVE_YOU_HAND_SIGN FACE_WITH_COWBOY_HAT CLOWN_FACE NAUSEATED_FACE ROLLING_ON_THE_FLOOR_LAUGHING
  DROOLING_FACE LYING_FACE FACE_PALM SNEEZING_FACE FACE_WITH_ONE_EYEBROW_RAISED
  GRINNING_FACE_WITH_: STAR_EYES ONE_LARGE_AND_ONE_SMALL_EYE :
  FACE_WITH_FINGER_COVERING_CLOSED_LIPS SERIOUS_FACE_WITH_SYMBOLS_COVERING_MOUTH
  SMILING_FACE_WITH_SMILING_EYES_AND_HAND_COVERING_MOUTH FACE_WITH_OPEN_MOUTH_VOMITING
  SHOCKED_FACE_WITH_EXPLODING_HEAD PREGNANT_WOMAN BREAST-FEEDING PALMS_UP_TOGETHER SELFIE PRINCE
  MAN_IN_TUXEDO MOTHER_CHRISTMAS SHRUG PERSON_DOING_CARTWHEEL JUGGLING FENCER MODERN_PENTATHLON
  WRESTLERS WATER_POLO HANDBALL DIVING_MASK WILTED_FLOWER DRUM_WITH_DRUMSTICKS CLINKING_GLASSES
  TUMBLER_GLASS SPOON GOAL_NET RIFLE FIRST_PLACE_MEDAL SECOND_PLACE_MEDAL THIRD_PLACE_MEDAL
  BOXING_GLOVE MARTIAL_ARTS_UNIFORM CURLING_STONE LACROSSE_STICK_AND_BALL SOFTBALL FLYING_DISC
  CROISSANT AVOCADO CUCUMBER BACON POTATO CARROT BAGUETTE_BREAD GREEN_SALAD SHALLOW_PAN_OF_FOOD
  STUFFED_FLATBREAD EGG GLASS_OF_MILK PEANUTS KIWIFRUIT PANCAKES DUMPLING FORTUNE_COOKIE
  TAKEOUT_BOX CHOPSTICKS BOWL_WITH_SPOON CUP_WITH_STRAW COCONUT BROCCOLI PIE PRETZEL CUT_OF_MEAT
  SANDWICH CANNED_FOOD LEAFY_GREEN MANGO MOON_CAKE BAGEL
  SMILING_FACE_WITH_SMILING_EYES_AND_THREE_HEARTS YAWNING_FACE SMILING_FACE_WITH_TEAR FACE_WITH_:
  PARTY_HORN_AND_PARTY_HAT UNEVEN_EYES_AND_WAVY_MOUTH : OVERHEATED_FACE FREEZING_FACE NINJA
  DISGUISED_FACE FACE_: HOLDING_BACK_TEARS WITH_PLEADING_EYES : SARI LAB_COAT GOGGLES HIKING_BOOT
  FLAT_SHOE CRAB LION_FACE SCORPION TURKEY UNICORN_FACE EAGLE DUCK BAT SHARK OWL FOX_FACE BUTTERFLY
  DEER GORILLA LIZARD RHINOCEROS SHRIMP SQUID GIRAFFE_FACE ZEBRA_FACE HEDGEHOG SAUROPOD T-REX
  CRICKET KANGAROO LLAMA PEACOCK HIPPOPOTAMUS PARROT RACCOON LOBSTER MOSQUITO MICROBE BADGER SWAN
  MAMMOTH DODO SLOTH OTTER ORANGUTAN SKUNK FLAMINGO OYSTER BEAVER BISON SEAL GUIDE_DOG PROBING_CANE
  EMOJI_COMPONENT_: RED_HAIR CURLY_HAIR BALD WHITE_HAIR : BONE LEG FOOT TOOTH SUPERHERO
  SUPERVILLAIN SAFETY_VEST EAR_WITH_HEARING_AID MOTORIZED_WHEELCHAIR MANUAL_WHEELCHAIR MECHANICAL_:
  ARM LEG : CHEESE_WEDGE CUPCAKE SALT_SHAKER BEVERAGE_BOX GARLIC ONION FALAFEL WAFFLE BUTTER
  MATE_DRINK ICE_CUBE BUBBLE_TEA TROLL STANDING_PERSON KNEELING_PERSON DEAF_PERSON
  FACE_WITH_MONOCLE ADULT CHILD OLDER_ADULT BEARDED_PERSON PERSON_: WITH_HEADSCARF IN_STEAMY_ROOM
  CLIMBING IN_LOTUS_POSITION : MAGE FAIRY VAMPIRE MERPERSON ELF GENIE ZOMBIE BRAIN ORANGE_HEART
  BILLED_CAP SCARF GLOVES COAT SOCKS RED_GIFT_ENVELOPE FIRECRACKER JIGSAW_PUZZLE_PIECE TEST_TUBE
  PETRI_DISH DNA_DOUBLE_HELIX COMPASS ABACUS FIRE_EXTINGUISHER TOOLBOX BRICK MAGNET LUGGAGE
  LOTION_BOTTLE SPOOL_OF_THREAD BALL_OF_YARN SAFETY_PIN TEDDY_BEAR BROOM BASKET ROLL_OF_PAPER
  BAR_OF_SOAP SPONGE RECEIPT NAZAR_AMULET NEUTRAL_CHESS_: KING QUEEN ROOK BISHOP KNIGHT PAWN :
  WHITE_CHESS_KNIGHT_ROTATED_FORTY-FIVE_DEGREES BLACK_CHESS_KNIGHT_ROTATED_FORTY-FIVE_DEGREES
  NEUTRAL_CHESS_KNIGHT_ROTATED_FORTY-FIVE_DEGREES WHITE_CHESS_: KING_ROTATED_NINETY_DEGREES
  QUEEN_ROTATED_NINETY_DEGREES ROOK_ROTATED_NINETY_DEGREES BISHOP_ROTATED_NINETY_DEGREES
  KNIGHT_ROTATED_NINETY_DEGREES PAWN_ROTATED_NINETY_DEGREES BLACK_CHESS_:
  KING_ROTATED_NINETY_DEGREES QUEEN_ROTATED_NINETY_DEGREES ROOK_ROTATED_NINETY_DEGREES
  BISHOP_ROTATED_NINETY_DEGREES KNIGHT_ROTATED_NINETY_DEGREES PAWN_ROTATED_NINETY_DEGREES
  NEUTRAL_CHESS_: KING_ROTATED_NINETY_DEGREES QUEEN_ROTATED_NINETY_DEGREES
  ROOK_ROTATED_NINETY_DEGREES BISHOP_ROTATED_NINETY_DEGREES KNIGHT_ROTATED_NINETY_DEGREES
  PAWN_ROTATED_NINETY_DEGREES : WHITE_CHESS_KNIGHT_ROTATED_ONE_HUNDRED_THIRTY-FIVE_DEGREES
  BLACK_CHESS_KNIGHT_ROTATED_ONE_HUNDRED_THIRTY-FIVE_DEGREES
  NEUTRAL_CHESS_KNIGHT_ROTATED_ONE_HUNDRED_THIRTY-FIVE_DEGREES WHITE_CHESS_TURNED_: KING QUEEN ROOK
  BISHOP KNIGHT PAWN BLACK_CHESS_TURNED_: KING QUEEN ROOK BISHOP KNIGHT PAWN NEUTRAL_CHESS_TURNED_:
  KING QUEEN ROOK BISHOP KNIGHT PAWN : WHITE_CHESS_KNIGHT_ROTATED_TWO_HUNDRED_TWENTY-FIVE_DEGREES
  BLACK_CHESS_KNIGHT_ROTATED_TWO_HUNDRED_TWENTY-FIVE_DEGREES
  NEUTRAL_CHESS_KNIGHT_ROTATED_TWO_HUNDRED_TWENTY-FIVE_DEGREES WHITE_CHESS_:
  KING_ROTATED_TWO_HUNDRED_SEVENTY_DEGREES QUEEN_ROTATED_TWO_HUNDRED_SEVENTY_DEGREES
  ROOK_ROTATED_TWO_HUNDRED_SEVENTY_DEGREES BISHOP_ROTATED_TWO_HUNDRED_SEVENTY_DEGREES
  KNIGHT_ROTATED_TWO_HUNDRED_SEVENTY_DEGREES PAWN_ROTATED_TWO_HUNDRED_SEVENTY_DEGREES BLACK_CHESS_:
  KING_ROTATED_TWO_HUNDRED_SEVENTY_DEGREES QUEEN_ROTATED_TWO_HUNDRED_SEVENTY_DEGREES
  ROOK_ROTATED_TWO_HUNDRED_SEVENTY_DEGREES BISHOP_ROTATED_TWO_HUNDRED_SEVENTY_DEGREES
  KNIGHT_ROTATED_TWO_HUNDRED_SEVENTY_DEGREES PAWN_ROTATED_TWO_HUNDRED_SEVENTY_DEGREES
  NEUTRAL_CHESS_: KING_ROTATED_TWO_HUNDRED_SEVENTY_DEGREES
  QUEEN_ROTATED_TWO_HUNDRED_SEVENTY_DEGREES ROOK_ROTATED_TWO_HUNDRED_SEVENTY_DEGREES
  BISHOP_ROTATED_TWO_HUNDRED_SEVENTY_DEGREES KNIGHT_ROTATED_TWO_HUNDRED_SEVENTY_DEGREES
  PAWN_ROTATED_TWO_HUNDRED_SEVENTY_DEGREES :
  WHITE_CHESS_KNIGHT_ROTATED_THREE_HUNDRED_FIFTEEN_DEGREES
  BLACK_CHESS_KNIGHT_ROTATED_THREE_HUNDRED_FIFTEEN_DEGREES
  NEUTRAL_CHESS_KNIGHT_ROTATED_THREE_HUNDRED_FIFTEEN_DEGREES WHITE_CHESS_EQUIHOPPER
  BLACK_CHESS_EQUIHOPPER NEUTRAL_CHESS_EQUIHOPPER WHITE_CHESS_EQUIHOPPER_ROTATED_NINETY_DEGREES
  BLACK_CHESS_EQUIHOPPER_ROTATED_NINETY_DEGREES NEUTRAL_CHESS_EQUIHOPPER_ROTATED_NINETY_DEGREES
  WHITE_CHESS_KNIGHT-: QUEEN ROOK BISHOP BLACK_CHESS_KNIGHT-: QUEEN ROOK BISHOP @1FA60
  XIANGQI_RED_: GENERAL MANDARIN ELEPHANT HORSE CHARIOT CANNON SOLDIER XIANGQI_BLACK_: GENERAL
  MANDARIN ELEPHANT HORSE CHARIOT CANNON SOLDIER @1FA70 : BALLET_SHOES ONE-PIECE_SWIMSUIT BRIEFS
  SHORTS THONG_SANDAL @1FA78 DROP_OF_BLOOD ADHESIVE_BANDAGE STETHOSCOPE X-RAY CRUTCH @1FA80 YO-YO
  KITE PARACHUTE BOOMERANG MAGIC_WAND PINATA NESTING_DOLLS @1FA90 RINGED_PLANET CHAIR RAZOR AXE
  DIYA_LAMP BANJO MILITARY_HELMET ACCORDION LONG_DRUM COIN CARPENTRY_SAW SCREWDRIVER LADDER HOOK
  MIRROR WINDOW PLUNGER SEWING_NEEDLE KNOT BUCKET MOUSE_TRAP TOOTHBRUSH HEADSTONE PLACARD ROCK
  MIRROR_BALL IDENTIFICATION_CARD LOW_BATTERY HAMSA @1FAB0 FLY WORM BEETLE COCKROACH POTTED_PLANT
  WOOD FEATHER LOTUS CORAL EMPTY_NEST NEST_WITH_EGGS @1FAC0 ANATOMICAL_HEART LUNGS PEOPLE_HUGGING
  PREGNANT_: MAN PERSON PERSON_WITH_: CROWN @1FAD0 : BLUEBERRIES BELL_PEPPER OLIVE FLATBREAD TAMALE
  FONDUE TEAPOT POURING_LIQUID BEANS JAR @1FAE0 MELTING_FACE SALUTING_FACE FACE_WITH_:
  OPEN_EYES_AND_HAND_OVER_MOUTH PEEKING_EYE DIAGONAL_MOUTH : DOTTED_LINE_FACE BITING_LIP BUBBLES
  @1FAF0 HAND_WITH_INDEX_FINGER_AND_THUMB_CROSSED RIGHTWARDS_HAND LEFTWARDS_HAND PALM_: DOWN_HAND
  UP_HAND : INDEX_POINTING_AT_THE_VIEWER HEART_HANDS @1FB00 BLOCK_SEXTANT-: 1 2 12 3 13 23 123 4 14
  24 124 34 134 234 1234 5 15 25 125 35 235 1235 45 145 245 1245 345 1345 2345 12345 6 16 26 126 36
  136 236 1236 46 146 1246 346 1346 2346 12346 56 156 256 1256 356 1356 2356 12356 456 1456 2456
  12456 3456 13456 23456 LOWER_LEFT_BLOCK_DIAGONAL_LOWER_MIDDLE_LEFT_TO_LOWER_: CENTRE RIGHT
  LOWER_LEFT_BLOCK_DIAGONAL_UPPER_: MIDDLE_LEFT_TO_LOWER_CENTRE MIDDLE_LEFT_TO_LOWER_RIGHT
  LEFT_TO_LOWER_CENTRE LOWER_RIGHT_BLOCK_DIAGONAL_UPPER_MIDDLE_LEFT_TO_UPPER_: CENTRE RIGHT
  LOWER_RIGHT_BLOCK_DIAGONAL_LOWER_: MIDDLE_LEFT_TO_UPPER_CENTRE MIDDLE_LEFT_TO_UPPER_RIGHT
  LEFT_TO_UPPER_CENTRE MIDDLE_LEFT_TO_UPPER_MIDDLE_RIGHT CENTRE_TO_LOWER_MIDDLE_RIGHT
  LEFT_TO_LOWER_MIDDLE_RIGHT CENTRE_TO_UPPER_MIDDLE_RIGHT LEFT_TO_UPPER_MIDDLE_RIGHT
  CENTRE_TO_UPPER_RIGHT LOWER_LEFT_BLOCK_DIAGONAL_UPPER_: CENTRE_TO_UPPER_MIDDLE_RIGHT
  LEFT_TO_UPPER_MIDDLE_RIGHT CENTRE_TO_LOWER_MIDDLE_RIGHT LEFT_TO_LOWER_MIDDLE_RIGHT
  CENTRE_TO_LOWER_RIGHT MIDDLE_LEFT_TO_LOWER_MIDDLE_RIGHT
  UPPER_RIGHT_BLOCK_DIAGONAL_LOWER_MIDDLE_LEFT_TO_LOWER_: CENTRE RIGHT
  UPPER_RIGHT_BLOCK_DIAGONAL_UPPER_: MIDDLE_LEFT_TO_LOWER_CENTRE MIDDLE_LEFT_TO_LOWER_RIGHT
  LEFT_TO_LOWER_CENTRE UPPER_LEFT_BLOCK_DIAGONAL_UPPER_MIDDLE_LEFT_TO_UPPER_: CENTRE RIGHT
  UPPER_LEFT_BLOCK_DIAGONAL_LOWER_: MIDDLE_LEFT_TO_UPPER_CENTRE MIDDLE_LEFT_TO_UPPER_RIGHT
  LEFT_TO_UPPER_CENTRE MIDDLE_LEFT_TO_UPPER_MIDDLE_RIGHT CENTRE_TO_LOWER_MIDDLE_RIGHT
  LEFT_TO_LOWER_MIDDLE_RIGHT CENTRE_TO_UPPER_MIDDLE_RIGHT LEFT_TO_UPPER_MIDDLE_RIGHT
  CENTRE_TO_UPPER_RIGHT UPPER_RIGHT_BLOCK_DIAGONAL_UPPER_: CENTRE_TO_UPPER_MIDDLE_RIGHT
  LEFT_TO_UPPER_MIDDLE_RIGHT CENTRE_TO_LOWER_MIDDLE_RIGHT LEFT_TO_LOWER_MIDDLE_RIGHT
  CENTRE_TO_LOWER_RIGHT MIDDLE_LEFT_TO_LOWER_MIDDLE_RIGHT :
  UPPER_AND_RIGHT_AND_LOWER_TRIANGULAR_THREE_QUARTERS_BLOCK
  LEFT_AND_LOWER_AND_RIGHT_TRIANGULAR_THREE_QUARTERS_BLOCK
  UPPER_AND_LEFT_AND_LOWER_TRIANGULAR_THREE_QUARTERS_BLOCK LEFT_:
  AND_UPPER_AND_RIGHT_TRIANGULAR_THREE_QUARTERS_BLOCK TRIANGULAR_ONE_QUARTER_BLOCK :
  UPPER_TRIANGULAR_ONE_QUARTER_BLOCK RIGHT_TRIANGULAR_ONE_QUARTER_BLOCK
  LOWER_TRIANGULAR_ONE_QUARTER_BLOCK VERTICAL_ONE_EIGHTH_BLOCK-: 2 3 4 5 6 7
  HORIZONTAL_ONE_EIGHTH_BLOCK-: 2 3 4 5 6 7 LEFT_AND_: LOWER_ONE_EIGHTH_BLOCK
  UPPER_ONE_EIGHTH_BLOCK RIGHT_AND_: UPPER_ONE_EIGHTH_BLOCK LOWER_ONE_EIGHTH_BLOCK :
  UPPER_AND_LOWER_ONE_EIGHTH_BLOCK HORIZONTAL_ONE_EIGHTH_BLOCK-1358 UPPER_: ONE_QUARTER_BLOCK
  THREE_EIGHTHS_BLOCK FIVE_EIGHTHS_BLOCK THREE_QUARTERS_BLOCK SEVEN_EIGHTHS_BLOCK RIGHT_:
  ONE_QUARTER_BLOCK THREE_EIGHTHS_BLOCK FIVE_EIGHTHS_BLOCK THREE_QUARTERS_BLOCK SEVEN_EIGHTHS_BLOCK
  : LEFT_HALF_MEDIUM_SHADE RIGHT_HALF_MEDIUM_SHADE UPPER_HALF_MEDIUM_SHADE LOWER_HALF_MEDIUM_SHADE
  INVERSE_MEDIUM_SHADE UPPER_HALF_: BLOCK_AND_LOWER_HALF_INVERSE_MEDIUM_SHADE
  INVERSE_MEDIUM_SHADE_AND_LOWER_HALF_BLOCK @1FB94 :
  LEFT_HALF_INVERSE_MEDIUM_SHADE_AND_RIGHT_HALF_BLOCK CHECKER_BOARD_FILL INVERSE_CHECKER_BOARD_FILL
  HEAVY_HORIZONTAL_FILL UPPER_: LEFT_TO_LOWER_RIGHT_FILL RIGHT_TO_LOWER_LEFT_FILL
  AND_LOWER_TRIANGULAR_HALF_BLOCK LEFT_AND_RIGHT_TRIANGULAR_HALF_: BLOCK UPPER_:
  LEFT_TRIANGULAR_MEDIUM_SHADE RIGHT_TRIANGULAR_MEDIUM_SHADE LOWER_: RIGHT_TRIANGULAR_MEDIUM_SHADE
  LEFT_TRIANGULAR_MEDIUM_SHADE BOX_DRAWINGS_LIGHT_DIAGONAL_: UPPER_CENTRE_TO_MIDDLE_LEFT
  UPPER_CENTRE_TO_MIDDLE_RIGHT MIDDLE_LEFT_TO_LOWER_CENTRE MIDDLE_RIGHT_TO_LOWER_CENTRE
  UPPER_CENTRE_TO_MIDDLE_LEFT_TO_LOWER_CENTRE UPPER_CENTRE_TO_MIDDLE_RIGHT_TO_LOWER_CENTRE
  MIDDLE_LEFT_TO_LOWER_CENTRE_TO_MIDDLE_RIGHT MIDDLE_LEFT_TO_UPPER_CENTRE_TO_MIDDLE_RIGHT
  BOX_DRAWINGS_LIGHT_DIAGONAL_UPPER_CENTRE_TO_MIDDLE_: LEFT_AND_MIDDLE_RIGHT_TO_LOWER_CENTRE
  RIGHT_AND_MIDDLE_LEFT_TO_LOWER_CENTRE RIGHT_TO_LOWER_CENTRE_TO_MIDDLE_LEFT
  LEFT_TO_LOWER_CENTRE_TO_MIDDLE_RIGHT BOX_DRAWINGS_LIGHT_:
  DIAGONAL_MIDDLE_LEFT_TO_UPPER_CENTRE_TO_MIDDLE_RIGHT_TO_LOWER_CENTRE
  DIAGONAL_MIDDLE_RIGHT_TO_UPPER_CENTRE_TO_MIDDLE_LEFT_TO_LOWER_CENTRE DIAGONAL_DIAMOND
  HORIZONTAL_WITH_VERTICAL_STROKE : ARROWHEAD-SHAPED_POINTER INVERSE_CHECK_MARK
  LEFT_HALF_RUNNING_MAN RIGHT_HALF_RUNNING_MAN INVERSE_DOWNWARDS_ARROW_WITH_TIP_LEFTWARDS
  LEFTWARDS_ARROW_AND_UPPER_AND_LOWER_ONE_EIGHTH_BLOCK
  RIGHTWARDS_ARROW_AND_UPPER_AND_LOWER_ONE_EIGHTH_BLOCK DOWNWARDS_ARROW_AND_RIGHT_ONE_EIGHTH_BLOCK
  UPWARDS_ARROW_AND_RIGHT_ONE_EIGHTH_BLOCK LEFT_HALF_FOLDER RIGHT_HALF_FOLDER VOIDED_GREEK_CROSS
  RIGHT_OPEN_SQUARED_DOT NEGATIVE_DIAGONAL_: CROSS MIDDLE_RIGHT_TO_LOWER_CENTRE DIAMOND :
  WHITE_HEAVY_SALTIRE_WITH_ROUNDED_CORNERS LEFT_THIRD_WHITE_RIGHT_POINTING_INDEX
  MIDDLE_THIRD_WHITE_RIGHT_POINTING_INDEX RIGHT_THIRD_WHITE_RIGHT_POINTING_INDEX
  NEGATIVE_SQUARED_QUESTION_MARK STICK_FIGURE STICK_FIGURE_: WITH_ARMS_RAISED LEANING_LEFT
  LEANING_RIGHT WITH_DRESS WHITE_UP-POINTING_: CHEVRON @1FBF0 SEGMENTED_DIGIT_: ZERO ONE TWO THREE
  FOUR FIVE SIX SEVEN EIGHT NINE @2F800 CJK_COMPATIBILITY_IDEOGRAPH-: 2F800 2F801 2F802 2F803 2F804
  2F805 2F806 2F807 2F808 2F809 2F80A 2F80B 2F80C 2F80D 2F80E 2F80F 2F810 2F811 2F812 2F813 2F814
  2F815 2F816 2F817 2F818 2F819 2F81A 2F81B 2F81C 2F81D 2F81E 2F81F 2F820 2F821 2F822 2F823 2F824
  2F825 2F826 2F827 2F828 2F829 2F82A 2F82B 2F82C 2F82D 2F82E 2F82F 2F830 2F831 2F832 2F833 2F834
  2F835 2F836 2F837 2F838 2F839 2F83A 2F83B 2F83C 2F83D 2F83E 2F83F 2F840 2F841 2F842 2F843 2F844
  2F845 2F846 2F847 2F848 2F849 2F84A 2F84B 2F84C 2F84D 2F84E 2F84F 2F850 2F851 2F852 2F853 2F854
  2F855 2F856 2F857 2F858 2F859 2F85A 2F85B 2F85C 2F85D 2F85E 2F85F 2F860 2F861 2F862 2F863 2F864
  2F865 2F866 2F867 2F868 2F869 2F86A 2F86B 2F86C 2F86D 2F86E 2F86F 2F870 2F871 2F872 2F873 2F874
  2F875 2F876 2F877 2F878 2F879 2F87A 2F87B 2F87C 2F87D 2F87E 2F87F 2F880 2F881 2F882 2F883 2F884
  2F885 2F886 2F887 2F888 2F889 2F88A 2F88B 2F88C 2F88D 2F88E 2F88F 2F890 2F891 2F892 2F893 2F894
  2F895 2F896 2F897 2F898 2F899 2F89A 2F89B 2F89C 2F89D 2F89E 2F89F 2F8A0 2F8A1 2F8A2 2F8A3 2F8A4
  2F8A5 2F8A6 2F8A7 2F8A8 2F8A9 2F8AA 2F8AB 2F8AC 2F8AD 2F8AE 2F8AF 2F8B0 2F8B1 2F8B2 2F8B3 2F8B4
  2F8B5 2F8B6 2F8B7 2F8B8 2F8B9 2F8BA 2F8BB 2F8BC 2F8BD 2F8BE 2F8BF 2F8C0 2F8C1 2F8C2 2F8C3 2F8C4
  2F8C5 2F8C6 2F8C7 2F8C8 2F8C9 2F8CA 2F8CB 2F8CC 2F8CD 2F8CE 2F8CF 2F8D0 2F8D1 2F8D2 2F8D3 2F8D4
  2F8D5 2F8D6 2F8D7 2F8D8 2F8D9 2F8DA 2F8DB 2F8DC 2F8DD 2F8DE 2F8DF 2F8E0 2F8E1 2F8E2 2F8E3 2F8E4
  2F8E5 2F8E6 2F8E7 2F8E8 2F8E9 2F8EA 2F8EB 2F8EC 2F8ED 2F8EE 2F8EF 2F8F0 2F8F1 2F8F2 2F8F3 2F8F4
  2F8F5 2F8F6 2F8F7 2F8F8 2F8F9 2F8FA 2F8FB 2F8FC 2F8FD 2F8FE 2F8FF 2F900 2F901 2F902 2F903 2F904
  2F905 2F906 2F907 2F908 2F909 2F90A 2F90B 2F90C 2F90D 2F90E 2F90F 2F910 2F911 2F912 2F913 2F914
  2F915 2F916 2F917 2F918 2F919 2F91A 2F91B 2F91C 2F91D 2F91E 2F91F 2F920 2F921 2F922 2F923 2F924
  2F925 2F926 2F927 2F928 2F929 2F92A 2F92B 2F92C 2F92D 2F92E 2F92F 2F930 2F931 2F932 2F933 2F934
  2F935 2F936 2F937 2F938 2F939 2F93A 2F93B 2F93C 2F93D 2F93E 2F93F 2F940 2F941 2F942 2F943 2F944
  2F945 2F946 2F947 2F948 2F949 2F94A 2F94B 2F94C 2F94D 2F94E 2F94F 2F950 2F951 2F952 2F953 2F954
  2F955 2F956 2F957 2F958 2F959 2F95A 2F95B 2F95C 2F95D 2F95E 2F95F 2F960 2F961 2F962 2F963 2F964
  2F965 2F966 2F967 2F968 2F969 2F96A 2F96B 2F96C 2F96D 2F96E 2F96F 2F970 2F971 2F972 2F973 2F974
  2F975 2F976 2F977 2F978 2F979 2F97A 2F97B 2F97C 2F97D 2F97E 2F97F 2F980 2F981 2F982 2F983 2F984
  2F985 2F986 2F987 2F988 2F989 2F98A 2F98B 2F98C 2F98D 2F98E 2F98F 2F990 2F991 2F992 2F993 2F994
  2F995 2F996 2F997 2F998 2F999 2F99A 2F99B 2F99C 2F99D 2F99E 2F99F 2F9A0 2F9A1 2F9A2 2F9A3 2F9A4
  2F9A5 2F9A6 2F9A7 2F9A8 2F9A9 2F9AA 2F9AB 2F9AC 2F9AD 2F9AE 2F9AF 2F9B0 2F9B1 2F9B2 2F9B3 2F9B4
  2F9B5 2F9B6 2F9B7 2F9B8 2F9B9 2F9BA 2F9BB 2F9BC 2F9BD 2F9BE 2F9BF 2F9C0 2F9C1 2F9C2 2F9C3 2F9C4
  2F9C5 2F9C6 2F9C7 2F9C8 2F9C9 2F9CA 2F9CB 2F9CC 2F9CD 2F9CE 2F9CF 2F9D0 2F9D1 2F9D2 2F9D3 2F9D4
  2F9D5 2F9D6 2F9D7 2F9D8 2F9D9 2F9DA 2F9DB 2F9DC 2F9DD 2F9DE 2F9DF 2F9E0 2F9E1 2F9E2 2F9E3 2F9E4
  2F9E5 2F9E6 2F9E7 2F9E8 2F9E9 2F9EA 2F9EB 2F9EC 2F9ED 2F9EE 2F9EF 2F9F0 2F9F1 2F9F2 2F9F3 2F9F4
  2F9F5 2F9F6 2F9F7 2F9F8 2F9F9 2F9FA 2F9FB 2F9FC 2F9FD 2F9FE 2F9FF 2FA00 2FA01 2FA02 2FA03 2FA04
  2FA05 2FA06 2FA07 2FA08 2FA09 2FA0A 2FA0B 2FA0C 2FA0D 2FA0E 2FA0F 2FA10 2FA11 2FA12 2FA13 2FA14
  2FA15 2FA16 2FA17 2FA18 2FA19 2FA1A 2FA1B 2FA1C 2FA1D @E0001 LANGUAGE_: TAG @E0020 TAG_: SPACE
  EXCLAMATION_MARK QUOTATION_MARK NUMBER_SIGN DOLLAR_SIGN PERCENT_SIGN AMPERSAND APOSTROPHE
  LEFT_PARENTHESIS RIGHT_PARENTHESIS ASTERISK PLUS_SIGN COMMA HYPHEN-MINUS FULL_STOP SOLIDUS
  TAG_DIGIT_: ZERO ONE TWO THREE FOUR FIVE SIX SEVEN EIGHT NINE TAG_: COLON SEMICOLON
  LESS-THAN_SIGN EQUALS_SIGN GREATER-THAN_SIGN QUESTION_MARK COMMERCIAL_AT
  TAG_LATIN_CAPITAL_LETTER_: A B C D E F G H I J K L M N O P Q R S T U V W X Y Z TAG_:
  LEFT_SQUARE_BRACKET REVERSE_SOLIDUS RIGHT_SQUARE_BRACKET CIRCUMFLEX_ACCENT LOW_LINE GRAVE_ACCENT
  TAG_LATIN_SMALL_LETTER_: A B C D E F G H I J K L M N O P Q R S T U V W X Y Z TAG_:
  LEFT_CURLY_BRACKET VERTICAL_LINE RIGHT_CURLY_BRACKET TILDE CANCEL_: TAG @E0100
  VARIATION_SELECTOR-: 17 18 19 20 21 22 23 24 25 26 27 28 29 30 31 32 33 34 35 36 37 38 39 40 41
  42 43 44 45 46 47 48 49 50 51 52 53 54 55 56 57 58 59 60 61 62 63 64 65 66 67 68 69 70 71 72 73
  74 75 76 77 78 79 80 81 82 83 84 85 86 87 88 89 90 91 92 93 94 95 96 97 98 99 100 101 102 103 104
  105 106 107 108 109 110 111 112 113 114 115 116 117 118 119 120 121 122 123 124 125 126 127 128
  129 130 131 132 133 134 135 136 137 138 139 140 141 142 143 144 145 146 147 148 149 150 151 152
  153 154 155 156 157 158 159 160 161 162 163 164 165 166 167 168 169 170 171 172 173 174 175 176
  177 178 179 180 181 182 183 184 185 186 187 188 189 190 191 192 193 194 195 196 197 198 199 200
  201 202 203 204 205 206 207 208 209 210 211 212 213 214 215 216 217 218 219 220 221 222 223 224
  225 226 227 228 229 230 231 232 233 234 235 236 237 238 239 240 241 242 243 244 245 246 247 248
  249 250 251 252 253 254 255 256
"

end EntityScaffold.Text.CharacterName
