/-
Names of characters of scripts from U+14400 to U+1CFFF.
-/

namespace EntityScaffold.Text.CharacterName

def scriptNames : String := "
  @14400 ANATOLIAN_HIEROGLYPH_: A001 A002 A003 A004 A005 A006 A007 A008 A009 A010 A010A A011 A012
  A013 A014 A015 A016 A017 A018 A019 A020 A021 A022 A023 A024 A025 A026 A026A A027 A028 A029 A030
  A031 A032 A033 A034 A035 A036 A037 A038 A039 A039A A040 A041 A041A A042 A043 A044 A045 A045A A046
  A046A A046B A047 A048 A049 A050 A051 A052 A053 A054 A055 A056 A057 A058 A059 A060 A061 A062 A063
  A064 A065 A066 A066A A066B A066C A067 A068 A069 A070 A071 A072 A073 A074 A075 A076 A077 A078 A079
  A080 A081 A082 A083 A084 A085 A086 A087 A088 A089 A090 A091 A092 A093 A094 A095 A096 A097 A097A
  A098 A098A A099 A100 A100A A101 A101A A102 A102A A103 A104 A104A A104B A104C A105 A105A A105B
  A106 A107 A107A A107B A107C A108 A109 A110 A110A A110B A111 A112 A113 A114 A115 A115A A116 A117
  A118 A119 A120 A121 A122 A123 A124 A125 A125A A126 A127 A128 A129 A130 A131 A132 A133 A134 A135
  A135A A136 A137 A138 A139 A140 A141 A142 A143 A144 A145 A146 A147 A148 A149 A150 A151 A152 A153
  A154 A155 A156 A157 A158 A159 A160 A161 A162 A163 A164 A165 A166 A167 A168 A169 A170 A171 A172
  A173 A174 A175 A176 A177 A178 A179 A180 A181 A182 A183 A184 A185 A186 A187 A188 A189 A190 A191
  A192 A193 A194 A195 A196 A197 A198 A199 A200 A201 A202 A202A A202B A203 A204 A205 A206 A207 A207A
  A208 A209 A209A A210 A211 A212 A213 A214 A215 A215A A216 A216A A217 A218 A219 A220 A221 A222 A223
  A224 A225 A226 A227 A227A A228 A229 A230 A231 A232 A233 A234 A235 A236 A237 A238 A239 A240 A241
  A242 A243 A244 A245 A246 A247 A248 A249 A250 A251 A252 A253 A254 A255 A256 A257 A258 A259 A260
  A261 A262 A263 A264 A265 A266 A267 A267A A268 A269 A270 A271 A272 A273 A274 A275 A276 A277 A278
  A279 A280 A281 A282 A283 A284 A285 A286 A287 A288 A289 A289A A290 A291 A292 A293 A294 A294A A295
  A296 A297 A298 A299 A299A A300 A301 A302 A303 A304 A305 A306 A307 A308 A309 A309A A310 A311 A312
  A313 A314 A315 A316 A317 A318 A319 A320 A321 A322 A323 A324 A325 A326 A327 A328 A329 A329A A330
  A331 A332A A332B A332C A333 A334 A335 A336 A336A A336B A336C A337 A338 A339 A340 A341 A342 A343
  A344 A345 A346 A347 A348 A349 A350 A351 A352 A353 A354 A355 A356 A357 A358 A359 A359A A360 A361
  A362 A363 A364 A364A A365 A366 A367 A368 A368A A369 A370 A371 A371A A372 A373 A374 A375 A376 A377
  A378 A379 A380 A381 A381A A382 A383_RA_OR_RI A383A A384 A385 A386 A386A A387 A388 A389 A390 A391
  A392 A393_EIGHT A394 A395 A396 A397 A398 A399 A400 A401 A402 A403 A404 A405 A406 A407 A408 A409
  A410_BEGIN_LOGOGRAM_MARK A410A_END_LOGOGRAM_MARK A411 A412 A413 A414 A415 A416 A417 A418 A419
  A420 A421 A422 A423 A424 A425 A426 A427 A428 A429 A430 A431 A432 A433 A434 A435 A436 A437 A438
  A439 A440 A441 A442 A443 A444 A445 A446 A447 A448 A449 A450 A450A A451 A452 A453 A454 A455 A456
  A457 A457A A458 A459 A460 A461 A462 A463 A464 A465 A466 A467 A468 A469 A470 A471 A472 A473 A474
  A475 A476 A477 A478 A479 A480 A481 A482 A483 A484 A485 A486 A487 A488 A489 A490 A491 A492 A493
  A494 A495 A496 A497 A501 A502 A503 A504 A505 A506 A507 A508 A509 A510 A511 A512 A513 A514 A515
  A516 A517 A518 A519 A520 A521 A522 A523 A524 A525 A526 A527 A528 A529 A530 @16800
  BAMUM_LETTER_PHASE-A_: NGKUE_MFON GBIEE_FON PON_MFON_PIPAEMGBIEE PON_MFON_PIPAEMBA NAA_MFON
  SHUENSHUET TITA_MFON NZA_MFON SHINDA_PA_NJI PON_PA_NJI_PIPAEMGBIEE PON_PA_NJI_PIPAEMBA MAEMBGBIEE
  TU_MAEMBA NGANGU MAEMVEUX MANSUAE MVEUAENGAM SEUNYAM NTOQPEN KEUKEUTNDA NKINDI SUU NGKUENZEUM
  LAPAQ LET_KUT NTAP_MFAA MAEKEUP PASHAE GHEUAERAE PAMSHAE MON_NGGEUAET NZUN_MEUT U_YUQ_NAE
  GHEUAEGHEUAE NTAP_NTAA SISA MGBASA MEUNJOMNDEUQ MOOMPUQ KAFA PA_LEERAEWA NDA_LEERAEWA PET
  MAEMKPEN NIKA PUP TUAEP LUAEP SONJAM TEUTEUWEN MAENYI KET NDAANGGEUAET KUOQ MOOMEUT SHUM LOMMAE
  FIRI ROM KPOQ SOQ MAP_PIEET SHIRAE NTAP SHOQ_NSHUT_YUM NYIT_MONGKEUAEQ PAARAE NKAARAE UNKNOWN
  NGGEN MAESI NJAM MBANYI NYET TEUAEN SOT PAAM NSHIEE MAEM NYI KAQ NSHA VEE LU NEN NAQ MBAQ
  BAMUM_LETTER_PHASE-B_: NSHUET TU_MAEMGBIEE SIEE SET_TU LOM_NTEUM MBA_MAELEE KIEEM YEURAE MBAARAE
  KAM PEESHI YAFU_LEERAEWA LAM_NSHUT_NYAM NTIEE_SHEUOQ NDU_NJAA GHEUGHEUAEM PIT TU_NSIEE SHET_NJAQ
  SHEUAEQTU MFON_TEUAEQ MBIT_MBAAKET NYI_NTEUM KEUPUQ GHEUGHEN KEUYEUX LAANAE PARUM VEUM
  NGKINDI_MVOP NGGEU_MBU WUAET SAKEUAE TAAM MEUQ NGGUOQ NGGUOQ_LARGE MFIYAQ SUE MBEURI MONTIEEN
  NYAEMAE PUNGAAM MEUT_NGGEET FEUX MBUOQ FEE KEUAEM MA_NJEUAENA MA_NJUQA LET NGGAAM NSEN MA KIQ
  NGOM BAMUM_LETTER_PHASE-C_: NGKUE_MAEMBA NZA YUM WANGKUOQ NGGEN NDEUAEREE NGKAQ GHARAE MBEEKEET
  GBAYI NYIR_MKPARAQ_MEUN NTU_MBIT MBEUM PIRIEEN NDOMBU MBAA_CABBAGE-TREE KEUSHEUAEP GHAP KEUKAQ
  YU_MUOMAE NZEUM MBUE NSEUAEN MBIT YEUQ KPARAQ KAA SEUX NDIDA TAASHAE NJUEQ TITA_YUE SUAET
  NGGUAEN_NYAM VEUX NANSANAQ MA_KEUAERI NTAA NGGUON LAP MBIRIEEN MGBASAQ NTEUNGBA TEUTEUX NGGUM FUE
  NDEUT NSA NSHAQ BUNG VEUAEPEN MBERAE RU NJAEM LAM TITUAEP NSUOT_NGOM NJEEEE KET NGGU MAESI MBUAEM
  LU KUT NJAM NGOM WUP NGGUEET NSOM NTEN KUOP_NKAARAE NSUN NDAM MA_NSIEE YAA NDAP SHUEQ SETFON MBI
  MAEMBA MBANYI KEUSEUX MBEUX KEUM MBAA_PICKET YUWOQ NJEUX MIEE MUAE SHIQ KEN_LAW KEN_FATIGUE NGAQ
  NAQ LIQ PIN PEN TET BAMUM_LETTER_PHASE-D_: MBUO WAP NJI MFON NJIEE LIEE NJEUT NSHEE NGGAAMAE NYAM
  WUAEN NGKUN SHEE NGKAP KEUAETMEUN TEUT SHEUAE NJAP SUE KET YAEMMAE KUOM SAP MFEUT NDEUX MALEERI
  MEUT SEUAEQ YEN NJEUAEM KEUOT_MBUAE NGKEURI TU GHAA NGKYEE FEUFEUAET NDEE MGBOFUM LEUAEP NDON
  MONI MGBEUN PUUT MGBIEE MFO LUM NSIEEP MBAA KWAET NYET TEUAEN SOT YUWOQ KEUM RAEM TEEEE NGKEUAEQ
  MFEUAE NSIEET KEUP PIP PEUTAE NYUE LET NGGAAM MFIEE NGGWAEN YUOM PAP YUOP NDAM NTEUM SUAE KUN
  NGGEUX NGKIEE TUOT MEUN KUQ NSUM TEUN MAENJET NGGAP LEUM NGGUOM NSHUT NJUEQ GHEUAE KU REN_OLD TAE
  TOQ NYI RII LEEEE MEEEE M SUU MU SHII SHEUX KYEE NU SHU NTEE PEE NI SHOQ PUQ MVOP LOQ REN_MUCH TI
  NTUU MBAA_SEVEN SAQ FAA BAMUM_LETTER_PHASE-E_: NDAP TOON MBEUM LAP VOM LOON PAA SOM RAQ NSHUOP
  NDUN PUAE TAM NGKA KPEUX WUO SEE NGGEUAET PAAM TOO KUOP LOM NSHIEE NGOP MAEM NGKEUX NGOQ NSHUE
  RIMGBA NJEUX PEEM SAA NGGURAE MGBA GHEUX NGKEUAEM NJAEMLI MAP LOOT NGGEEEE NDIQ TAEN_NTEUM SET
  PUM NDAA_SOFTNESS NGGUAESHAE_NYAM YIEE GHEUN TUAE YEUAE PO TUMAE KEUAE SUAEN TEUAEQ VEUAE WEUX
  LAAM PU TAAQ GHAAMAE NGEUREUT SHEUAEQ MGBEN MBEE NZAQ NKOM GBET TUM KUET YAP NYI_CLEAVER YIT
  MFEUQ NDIAQ PIEEQ YUEQ LEUAEM FUE GBEUX NGKUP KET MAE NGKAAMI GHET FA NTUM PEUT YEUM NGGEUAE
  NYI_BETWEEN NZUQ POON MIEE FUET NAE MUAE GHEUAE FU_I MVI PUAQ NGKUM KUT PIET NTAP YEUAET NGGUP
  PA_PEOPLE FU_CALL FOM NJEE A TOQ O I LAQ PA_PLURAL TAA TAQ NDAA_MY_HOUSE SHIQ YEUX NGUAE YUAEN
  YOQ_SWIMMING YOQ_COVER YUQ YUN KEUX PEUX NJEE_EPOCH PUE WUE FEE VEE LU MI REUX RAE NGUAET NGA SHO
  SHOQ FU_REMEDY NA PI LOQ KO MEN MA MAQ TEU KI MON TEN FAQ GHOM BAMUM_LETTER_PHASE-F_: KA U KU EE
  REE TAE NYI LA RII RIEE MEEEE TAA NDAA NJAEM M SUU SHII SI SEUX KYEE KET NUAE NU NJUAE YOQ SHU YA
  NSHA PEUX NTEE WUE PEE RU NI REUX KEN NGKWAEN NGGA SHO PUAE FOM WA LI LOQ KO MBEN REN MA MO MBAA
  TET KPA SAMBA VUEQ @16A40 MRO_LETTER_: TA NGI YO MIM BA DA A PHI KHAI HAO DAI CHU KEAAE OL MAEM
  NIN PA OO O RO SHI THEA EA WA E KO LAN LA HAI RI TEK @16A60 MRO_DIGIT_: ZERO ONE TWO THREE FOUR
  FIVE SIX SEVEN EIGHT NINE @16A6E MRO_: DANDA DOUBLE_DANDA TANGSA_LETTER_: OZ OC OQ OX AZ AC AQ AX
  VZ VC VQ VX EZ EC EQ EX IZ IC IQ IX UZ UC UQ UX AWZ AWC AWQ AWX UIZ UIC UIQ UIX FINAL_NG LONG_UEX
  SHORT_UEZ SHORT_AWX UEC UEZ UEQ UEX UIUZ UIUC UIUQ UIUX MZ MC MQ MX KA KHA GA NGA SA YA WA PA NYA
  PHA BA MA NA HA LA HTA TA DA RA NHA SHA CA TSA GHA HTTA THA XA FA DHA CHA ZA @16AC0
  TANGSA_DIGIT_: ZERO ONE TWO THREE FOUR FIVE SIX SEVEN EIGHT NINE @16AD0 BASSA_VAH_LETTER_: ENNI
  KA SE FA MBE YIE GAH DHII KPAH JO HWAH WA ZO GBU DO CE UWU TO BA VU YEIN PA WADDA A O OO U EE E I
  @16AF0 BASSA_VAH_COMBINING_: HIGH_TONE LOW_TONE MID_TONE LOW-MID_TONE HIGH-LOW_TONE
  BASSA_VAH_FULL_: STOP @16B00 PAHAWH_HMONG_VOWEL_: KEEB KEEV KIB KIV KAUB KAUV KUB KUV KEB KEV
  KAIB KAIV KOOB KOOV KAWB KAWV KUAB KUAV KOB KOV KIAB KIAV KAB KAV KWB KWV KAAB KAAV
  PAHAWH_HMONG_CONSONANT_: VAU NTSAU LAU HAU NLAU RAU NKAU QHAU YAU HLAU MAU CHAU NCHAU HNAU PLHAU
  NTHAU NAU AU XAU CAU PAHAWH_HMONG_MARK_CIM_: TUB SO KES KHAV SUAM HOM TAUM PAHAWH_HMONG_SIGN_:
  VOS_THOM VOS_TSHAB_CEEB CIM_CHEEM VOS_THIAB VOS_FEEM XYEEM_NTXIV XYEEM_RHO XYEEM_TOV XYEEM_FAIB
  VOS_SEEV MEEJ_SUAB VOS_NRUA IB_YAM XAUS CIM_TSOV_ROG @16B50 PAHAWH_HMONG_DIGIT_: ZERO ONE TWO
  THREE FOUR FIVE SIX SEVEN EIGHT NINE @16B5B PAHAWH_HMONG_NUMBER_: TENS HUNDREDS TEN_THOUSANDS
  MILLIONS HUNDRED_MILLIONS TEN_BILLIONS TRILLIONS @16B63 PAHAWH_HMONG_SIGN_: VOS_LUB XYOO HLI
  THIRD-STAGE_HLI ZWJ_THAJ HNUB NQIG XIAB NTUJ AV TXHEEJ_CEEV MEEJ_TSEEB TAU LOS MUS
  CIM_HAIS_LUS_NTOG_NTOG CIM_CUAM_TSHOOJ CIM_TXWV CIM_TXWV_CHWV CIM_PUB_DAWB CIM_NRES_TOS @16B7D
  PAHAWH_HMONG_CLAN_SIGN_: TSHEEJ YEEG LIS LAUJ XYOOJ KOO HAWJ MUAS THOJ TSAB PHAB KHAB HAM VAJ FAJ
  YAJ TSWB KWM VWJ @16E40 MEDEFAIDRIN_CAPITAL_LETTER_: M S V W ATIU Z KP P T G F I K A J E B C U YU
  L Q HP NY X D OE N R O AI Y MEDEFAIDRIN_SMALL_LETTER_: M S V W ATIU Z KP P T G F I K A J E B C U
  YU L Q HP NY X D OE N R O AI Y MEDEFAIDRIN_DIGIT_: ZERO ONE TWO THREE FOUR FIVE SIX SEVEN EIGHT
  NINE MEDEFAIDRIN_NUMBER_: TEN ELEVEN TWELVE THIRTEEN FOURTEEN FIFTEEN SIXTEEN SEVENTEEN EIGHTEEN
  NINETEEN MEDEFAIDRIN_: DIGIT_ONE_ALTERNATE_FORM DIGIT_TWO_ALTERNATE_FORM
  DIGIT_THREE_ALTERNATE_FORM COMMA FULL_STOP SYMBOL_AIVA EXCLAMATION_OH @16F00 MIAO_LETTER_: PA BA
  YI_PA PLA MA MHA ARCHAIC_MA FA VA VFA TA DA YI_TTA YI_TA TTA DDA NA NHA YI_NNA ARCHAIC_NA NNA
  NNHA LA LYA LHA LHYA TLHA DLHA TLHYA DLHYA KA GA YI_KA QA QGA NGA NGHA ARCHAIC_NGA HA XA GHA GHHA
  TSSA DZZA NYA NYHA TSHA DZHA YI_TSHA YI_DZHA REFORMED_TSHA SHA SSA ZHA ZSHA TSA DZA YI_TSA SA ZA
  ZSA ZZA ZZSA ARCHAIC_ZZA ZZYA ZZSYA WA AH HHA BRI SYI DZYI TE TSE RTE @16F4F MIAO_:
  SIGN_CONSONANT_MODIFIER_BAR LETTER_NASALIZATION SIGN_ASPIRATION MIAO_SIGN_REFORMED_: VOICING
  ASPIRATION MIAO_VOWEL_SIGN_: A AA AHH AN ANG O OO WO W E EN ENG OEY I IA IAN IANG IO IE II IU ING
  U UA UAN UANG UU UEI UNG Y YI AE AEE ERR ROUNDED_ERR ER ROUNDED_ER AI EI AU OU N NG UOG YUI OG
  OER VW IG EA IONG UI @16F8F MIAO_TONE_: RIGHT TOP_RIGHT ABOVE BELOW MIAO_LETTER_TONE-: 2 3 4 5 6
  7 8 MIAO_LETTER_REFORMED_TONE-: 1 2 4 5 6 8 @16FE0 : TANGUT_ITERATION_MARK NUSHU_ITERATION_MARK
  OLD_CHINESE_: HOOK_MARK ITERATION_MARK KHITAN_SMALL_SCRIPT_: FILLER @16FF0
  VIETNAMESE_ALTERNATE_READING_MARK_: CA NHAY @18800 TANGUT_COMPONENT-: 001 002 003 004 005 006 007
  008 009 010 011 012 013 014 015 016 017 018 019 020 021 022 023 024 025 026 027 028 029 030 031
  032 033 034 035 036 037 038 039 040 041 042 043 044 045 046 047 048 049 050 051 052 053 054 055
  056 057 058 059 060 061 062 063 064 065 066 067 068 069 070 071 072 073 074 075 076 077 078 079
  080 081 082 083 084 085 086 087 088 089 090 091 092 093 094 095 096 097 098 099 100 101 102 103
  104 105 106 107 108 109 110 111 112 113 114 115 116 117 118 119 120 121 122 123 124 125 126 127
  128 129 130 131 132 133 134 135 136 137 138 139 140 141 142 143 144 145 146 147 148 149 150 151
  152 153 154 155 156 157 158 159 160 161 162 163 164 165 166 167 168 169 170 171 172 173 174 175
  176 177 178 179 180 181 182 183 184 185 186 187 188 189 190 191 192 193 194 195 196 197 198 199
  200 201 202 203 204 205 206 207 208 209 210 211 212 213 214 215 216 217 218 219 220 221 222 223
  224 225 226 227 228 229 230 231 232 233 234 235 236 237 238 239 240 241 242 243 244 245 246 247
  248 249 250 251 252 253 254 255 256 257 258 259 260 261 262 263 264 265 266 267 268 269 270 271
  272 273 274 275 276 277 278 279 280 281 282 283 284 285 286 287 288 289 290 291 292 293 294 295
  296 297 298 299 300 301 302 303 304 305 306 307 308 309 310 311 312 313 314 315 316 317 318 319
  320 321 322 323 324 325 326 327 328 329 330 331 332 333 334 335 336 337 338 339 340 341 342 343
  344 345 346 347 348 349 350 351 352 353 354 355 356 357 358 359 360 361 362 363 364 365 366 367
  368 369 370 371 372 373 374 375 376 377 378 379 380 381 382 383 384 385 386 387 388 389 390 391
  392 393 394 395 396 397 398 399 400 401 402 403 404 405 406 407 408 409 410 411 412 413 414 415
  416 417 418 419 420 421 422 423 424 425 426 427 428 429 430 431 432 433 434 435 436 437 438 439
  440 441 442 443 444 445 446 447 448 449 450 451 452 453 454 455 456 457 458 459 460 461 462 463
  464 465 466 467 468 469 470 471 472 473 474 475 476 477 478 479 480 481 482 483 484 485 486 487
  488 489 490 491 492 493 494 495 496 497 498 499 500 501 502 503 504 505 506 507 508 509 510 511
  512 513 514 515 516 517 518 519 520 521 522 523 524 525 526 527 528 529 530 531 532 533 534 535
  536 537 538 539 540 541 542 543 544 545 546 547 548 549 550 551 552 553 554 555 556 557 558 559
  560 561 562 563 564 565 566 567 568 569 570 571 572 573 574 575 576 577 578 579 580 581 582 583
  584 585 586 587 588 589 590 591 592 593 594 595 596 597 598 599 600 601 602 603 604 605 606 607
  608 609 610 611 612 613 614 615 616 617 618 619 620 621 622 623 624 625 626 627 628 629 630 631
  632 633 634 635 636 637 638 639 640 641 642 643 644 645 646 647 648 649 650 651 652 653 654 655
  656 657 658 659 660 661 662 663 664 665 666 667 668 669 670 671 672 673 674 675 676 677 678 679
  680 681 682 683 684 685 686 687 688 689 690 691 692 693 694 695 696 697 698 699 700 701 702 703
  704 705 706 707 708 709 710 711 712 713 714 715 716 717 718 719 720 721 722 723 724 725 726 727
  728 729 730 731 732 733 734 735 736 737 738 739 740 741 742 743 744 745 746 747 748 749 750 751
  752 753 754 755 756 757 758 759 760 761 762 763 764 765 766 767 768
  KHITAN_SMALL_SCRIPT_CHARACTER-: 18B00 18B01 18B02 18B03 18B04 18B05 18B06 18B07 18B08 18B09 18B0A
  18B0B 18B0C 18B0D 18B0E 18B0F 18B10 18B11 18B12 18B13 18B14 18B15 18B16 18B17 18B18 18B19 18B1A
  18B1B 18B1C 18B1D 18B1E 18B1F 18B20 18B21 18B22 18B23 18B24 18B25 18B26 18B27 18B28 18B29 18B2A
  18B2B 18B2C 18B2D 18B2E 18B2F 18B30 18B31 18B32 18B33 18B34 18B35 18B36 18B37 18B38 18B39 18B3A
  18B3B 18B3C 18B3D 18B3E 18B3F 18B40 18B41 18B42 18B43 18B44 18B45 18B46 18B47 18B48 18B49 18B4A
  18B4B 18B4C 18B4D 18B4E 18B4F 18B50 18B51 18B52 18B53 18B54 18B55 18B56 18B57 18B58 18B59 18B5A
  18B5B 18B5C 18B5D 18B5E 18B5F 18B60 18B61 18B62 18B63 18B64 18B65 18B66 18B67 18B68 18B69 18B6A
  18B6B 18B6C 18B6D 18B6E 18B6F 18B70 18B71 18B72 18B73 18B74 18B75 18B76 18B77 18B78 18B79 18B7A
  18B7B 18B7C 18B7D 18B7E 18B7F 18B80 18B81 18B82 18B83 18B84 18B85 18B86 18B87 18B88 18B89 18B8A
  18B8B 18B8C 18B8D 18B8E 18B8F 18B90 18B91 18B92 18B93 18B94 18B95 18B96 18B97 18B98 18B99 18B9A
  18B9B 18B9C 18B9D 18B9E 18B9F 18BA0 18BA1 18BA2 18BA3 18BA4 18BA5 18BA6 18BA7 18BA8 18BA9 18BAA
  18BAB 18BAC 18BAD 18BAE 18BAF 18BB0 18BB1 18BB2 18BB3 18BB4 18BB5 18BB6 18BB7 18BB8 18BB9 18BBA
  18BBB 18BBC 18BBD 18BBE 18BBF 18BC0 18BC1 18BC2 18BC3 18BC4 18BC5 18BC6 18BC7 18BC8 18BC9 18BCA
  18BCB 18BCC 18BCD 18BCE 18BCF 18BD0 18BD1 18BD2 18BD3 18BD4 18BD5 18BD6 18BD7 18BD8 18BD9 18BDA
  18BDB 18BDC 18BDD 18BDE 18BDF 18BE0 18BE1 18BE2 18BE3 18BE4 18BE5 18BE6 18BE7 18BE8 18BE9 18BEA
  18BEB 18BEC 18BED 18BEE 18BEF 18BF0 18BF1 18BF2 18BF3 18BF4 18BF5 18BF6 18BF7 18BF8 18BF9 18BFA
  18BFB 18BFC 18BFD 18BFE 18BFF 18C00 18C01 18C02 18C03 18C04 18C05 18C06 18C07 18C08 18C09 18C0A
  18C0B 18C0C 18C0D 18C0E 18C0F 18C10 18C11 18C12 18C13 18C14 18C15 18C16 18C17 18C18 18C19 18C1A
  18C1B 18C1C 18C1D 18C1E 18C1F 18C20 18C21 18C22 18C23 18C24 18C25 18C26 18C27 18C28 18C29 18C2A
  18C2B 18C2C 18C2D 18C2E 18C2F 18C30 18C31 18C32 18C33 18C34 18C35 18C36 18C37 18C38 18C39 18C3A
  18C3B 18C3C 18C3D 18C3E 18C3F 18C40 18C41 18C42 18C43 18C44 18C45 18C46 18C47 18C48 18C49 18C4A
  18C4B 18C4C 18C4D 18C4E 18C4F 18C50 18C51 18C52 18C53 18C54 18C55 18C56 18C57 18C58 18C59 18C5A
  18C5B 18C5C 18C5D 18C5E 18C5F 18C60 18C61 18C62 18C63 18C64 18C65 18C66 18C67 18C68 18C69 18C6A
  18C6B 18C6C 18C6D 18C6E 18C6F 18C70 18C71 18C72 18C73 18C74 18C75 18C76 18C77 18C78 18C79 18C7A
  18C7B 18C7C 18C7D 18C7E 18C7F 18C80 18C81 18C82 18C83 18C84 18C85 18C86 18C87 18C88 18C89 18C8A
  18C8B 18C8C 18C8D 18C8E 18C8F 18C90 18C91 18C92 18C93 18C94 18C95 18C96 18C97 18C98 18C99 18C9A
  18C9B 18C9C 18C9D 18C9E 18C9F 18CA0 18CA1 18CA2 18CA3 18CA4 18CA5 18CA6 18CA7 18CA8 18CA9 18CAA
  18CAB 18CAC 18CAD 18CAE 18CAF 18CB0 18CB1 18CB2 18CB3 18CB4 18CB5 18CB6 18CB7 18CB8 18CB9 18CBA
  18CBB 18CBC 18CBD 18CBE 18CBF 18CC0 18CC1 18CC2 18CC3 18CC4 18CC5 18CC6 18CC7 18CC8 18CC9 18CCA
  18CCB 18CCC 18CCD 18CCE 18CCF 18CD0 18CD1 18CD2 18CD3 18CD4 18CD5 @1AFF0
  KATAKANA_LETTER_MINNAN_TONE-: 2 3 4 5 @1AFF5 7 8 KATAKANA_LETTER_MINNAN_NASALIZED_TONE-: 1 2 3 4
  5 @1AFFD 7 8 @1B000 : KATAKANA_LETTER_ARCHAIC_E HIRAGANA_LETTER_ARCHAIC_YE HENTAIGANA_LETTER_:
  A-1 A-2 A-3 A-WO I-1 I-2 I-3 I-4 U-1 U-2 U-3 U-4 U-5 E-2 E-3 E-4 E-5 E-6 O-1 O-2 O-3 KA-1 KA-2
  KA-3 KA-4 KA-5 KA-6 KA-7 KA-8 KA-9 KA-10 KA-11 KA-KE KI-1 KI-2 KI-3 KI-4 KI-5 KI-6 KI-7 KI-8 KU-1
  KU-2 KU-3 KU-4 KU-5 KU-6 KU-7 KE-1 KE-2 KE-3 KE-4 KE-5 KE-6 KO-1 KO-2 KO-3 KO-KI SA-1 SA-2 SA-3
  SA-4 SA-5 SA-6 SA-7 SA-8 SI-1 SI-2 SI-3 SI-4 SI-5 SI-6 SU-1 SU-2 SU-3 SU-4 SU-5 SU-6 SU-7 SU-8
  SE-1 SE-2 SE-3 SE-4 SE-5 SO-1 SO-2 SO-3 SO-4 SO-5 SO-6 SO-7 TA-1 TA-2 TA-3 TA-4 TI-1 TI-2 TI-3
  TI-4 TI-5 TI-6 TI-7 TU-1 TU-2 TU-3 TU-4 TU-TO TE-1 TE-2 TE-3 TE-4 TE-5 TE-6 TE-7 TE-8 TE-9 TO-1
  TO-2 TO-3 TO-4 TO-5 TO-6 TO-RA NA-1 NA-2 NA-3 NA-4 NA-5 NA-6 NA-7 NA-8 NA-9 NI-1 NI-2 NI-3 NI-4
  NI-5 NI-6 NI-7 NI-TE NU-1 NU-2 NU-3 NE-1 NE-2 NE-3 NE-4 NE-5 NE-6 NE-KO NO-1 NO-2 NO-3 NO-4 NO-5
  HA-1 HA-2 HA-3 HA-4 HA-5 HA-6 HA-7 HA-8 HA-9 HA-10 HA-11 HI-1 HI-2 HI-3 HI-4 HI-5 HI-6 HI-7 HU-1
  HU-2 HU-3 HE-1 HE-2 HE-3 HE-4 HE-5 HE-6 HE-7 HO-1 HO-2 HO-3 HO-4 HO-5 HO-6 HO-7 HO-8 MA-1 MA-2
  MA-3 MA-4 MA-5 MA-6 MA-7 MI-1 MI-2 MI-3 MI-4 MI-5 MI-6 MI-7 MU-1 MU-2 MU-3 MU-4 ME-1 ME-2 ME-MA
  MO-1 MO-2 MO-3 MO-4 MO-5 MO-6 YA-1 YA-2 YA-3 YA-4 YA-5 YA-YO YU-1 YU-2 YU-3 YU-4 YO-1 YO-2 YO-3
  YO-4 YO-5 YO-6 RA-1 RA-2 RA-3 RA-4 RI-1 RI-2 RI-3 RI-4 RI-5 RI-6 RI-7 RU-1 RU-2 RU-3 RU-4 RU-5
  RU-6 RE-1 RE-2 RE-3 RE-4 RO-1 RO-2 RO-3 RO-4 RO-5 RO-6 WA-1 WA-2 WA-3 WA-4 WA-5 WI-1 WI-2 WI-3
  WI-4 WI-5 WE-1 WE-2 WE-3 WE-4 WO-1 WO-2 WO-3 WO-4 WO-5 WO-6 WO-7 N-MU-MO-1 N-MU-MO-2
  HIRAGANA_LETTER_ARCHAIC_: WU KATAKANA_LETTER_ARCHAIC_: YI YE WU @1B150 HIRAGANA_LETTER_SMALL_: WI
  WE WO @1B164 KATAKANA_LETTER_SMALL_: WI WE WO N @1B170 NUSHU_CHARACTER-: 1B170 1B171 1B172 1B173
  1B174 1B175 1B176 1B177 1B178 1B179 1B17A 1B17B 1B17C 1B17D 1B17E 1B17F 1B180 1B181 1B182 1B183
  1B184 1B185 1B186 1B187 1B188 1B189 1B18A 1B18B 1B18C 1B18D 1B18E 1B18F 1B190 1B191 1B192 1B193
  1B194 1B195 1B196 1B197 1B198 1B199 1B19A 1B19B 1B19C 1B19D 1B19E 1B19F 1B1A0 1B1A1 1B1A2 1B1A3
  1B1A4 1B1A5 1B1A6 1B1A7 1B1A8 1B1A9 1B1AA 1B1AB 1B1AC 1B1AD 1B1AE 1B1AF 1B1B0 1B1B1 1B1B2 1B1B3
  1B1B4 1B1B5 1B1B6 1B1B7 1B1B8 1B1B9 1B1BA 1B1BB 1B1BC 1B1BD 1B1BE 1B1BF 1B1C0 1B1C1 1B1C2 1B1C3
  1B1C4 1B1C5 1B1C6 1B1C7 1B1C8 1B1C9 1B1CA 1B1CB 1B1CC 1B1CD 1B1CE 1B1CF 1B1D0 1B1D1 1B1D2 1B1D3
  1B1D4 1B1D5 1B1D6 1B1D7 1B1D8 1B1D9 1B1DA 1B1DB 1B1DC 1B1DD 1B1DE 1B1DF 1B1E0 1B1E1 1B1E2 1B1E3
  1B1E4 1B1E5 1B1E6 1B1E7 1B1E8 1B1E9 1B1EA 1B1EB 1B1EC 1B1ED 1B1EE 1B1EF 1B1F0 1B1F1 1B1F2 1B1F3
  1B1F4 1B1F5 1B1F6 1B1F7 1B1F8 1B1F9 1B1FA 1B1FB 1B1FC 1B1FD 1B1FE 1B1FF 1B200 1B201 1B202 1B203
  1B204 1B205 1B206 1B207 1B208 1B209 1B20A 1B20B 1B20C 1B20D 1B20E 1B20F 1B210 1B211 1B212 1B213
  1B214 1B215 1B216 1B217 1B218 1B219 1B21A 1B21B 1B21C 1B21D 1B21E 1B21F 1B220 1B221 1B222 1B223
  1B224 1B225 1B226 1B227 1B228 1B229 1B22A 1B22B 1B22C 1B22D 1B22E 1B22F 1B230 1B231 1B232 1B233
  1B234 1B235 1B236 1B237 1B238 1B239 1B23A 1B23B 1B23C 1B23D 1B23E 1B23F 1B240 1B241 1B242 1B243
  1B244 1B245 1B246 1B247 1B248 1B249 1B24A 1B24B 1B24C 1B24D 1B24E 1B24F 1B250 1B251 1B252 1B253
  1B254 1B255 1B256 1B257 1B258 1B259 1B25A 1B25B 1B25C 1B25D 1B25E 1B25F 1B260 1B261 1B262 1B263
  1B264 1B265 1B266 1B267 1B268 1B269 1B26A 1B26B 1B26C 1B26D 1B26E 1B26F 1B270 1B271 1B272 1B273
  1B274 1B275 1B276 1B277 1B278 1B279 1B27A 1B27B 1B27C 1B27D 1B27E 1B27F 1B280 1B281 1B282 1B283
  1B284 1B285 1B286 1B287 1B288 1B289 1B28A 1B28B 1B28C 1B28D 1B28E 1B28F 1B290 1B291 1B292 1B293
  1B294 1B295 1B296 1B297 1B298 1B299 1B29A 1B29B 1B29C 1B29D 1B29E 1B29F 1B2A0 1B2A1 1B2A2 1B2A3
  1B2A4 1B2A5 1B2A6 1B2A7 1B2A8 1B2A9 1B2AA 1B2AB 1B2AC 1B2AD 1B2AE 1B2AF 1B2B0 1B2B1 1B2B2 1B2B3
  1B2B4 1B2B5 1B2B6 1B2B7 1B2B8 1B2B9 1B2BA 1B2BB 1B2BC 1B2BD 1B2BE 1B2BF 1B2C0 1B2C1 1B2C2 1B2C3
  1B2C4 1B2C5 1B2C6 1B2C7 1B2C8 1B2C9 1B2CA 1B2CB 1B2CC 1B2CD 1B2CE 1B2CF 1B2D0 1B2D1 1B2D2 1B2D3
  1B2D4 1B2D5 1B2D6 1B2D7 1B2D8 1B2D9 1B2DA 1B2DB 1B2DC 1B2DD 1B2DE 1B2DF 1B2E0 1B2E1 1B2E2 1B2E3
  1B2E4 1B2E5 1B2E6 1B2E7 1B2E8 1B2E9 1B2EA 1B2EB 1B2EC 1B2ED 1B2EE 1B2EF 1B2F0 1B2F1 1B2F2 1B2F3
  1B2F4 1B2F5 1B2F6 1B2F7 1B2F8 1B2F9 1B2FA 1B2FB @1BC00 DUPLOYAN_LETTER_: H X P T F K L B D V G R
  P_N D_S F_N K_M R_S TH SLOAN_DH DH KK SLOAN_J HL LH RH M N J S M_N N_M J_M S_J M_WITH_DOT
  N_WITH_DOT J_WITH_DOT J_WITH_DOTS_INSIDE_AND_ABOVE S_WITH_DOT S_WITH_DOT_BELOW M_S N_S J_S S_S
  M_N_S N_M_S J_M_S S_J_S J_S_WITH_DOT J_N J_N_S S_T S_T_R S_P S_P_R T_S T_R_S W WH W_R S_N S_M
  K_R_S G_R_S S_K S_K_R A SLOAN_OW OA O AOU I E IE SHORT_I UI EE SLOAN_EH ROMANIAN_I SLOAN_EE
  LONG_I YE U EU XW U_N LONG_U ROMANIAN_U UH SLOAN_U OOH OW OU WA WO WI WEI WOW NASAL_U NASAL_O
  NASAL_I NASAL_A PERNIN_AN PERNIN_AM SLOAN_EN SLOAN_AN SLOAN_ON VOCALIC_M @1BC70 DUPLOYAN_AFFIX_:
  LEFT_HORIZONTAL_SECANT MID_HORIZONTAL_SECANT RIGHT_HORIZONTAL_SECANT LOW_VERTICAL_SECANT
  MID_VERTICAL_SECANT HIGH_VERTICAL_SECANT DUPLOYAN_AFFIX_ATTACHED_: SECANT LEFT-TO-RIGHT_SECANT
  TANGENT TAIL E_HOOK I_HOOK TANGENT_HOOK @1BC80 DUPLOYAN_AFFIX_HIGH_: ACUTE TIGHT_ACUTE GRAVE
  LONG_GRAVE DOT CIRCLE LINE WAVE VERTICAL @1BC90 DUPLOYAN_AFFIX_LOW_: ACUTE TIGHT_ACUTE GRAVE
  LONG_GRAVE DOT CIRCLE LINE WAVE VERTICAL ARROW @1BC9C DUPLOYAN_: SIGN_O_WITH_CROSS
  THICK_LETTER_SELECTOR DOUBLE_MARK PUNCTUATION_CHINOOK_FULL_STOP SHORTHAND_FORMAT_: LETTER_OVERLAP
  CONTINUING_OVERLAP DOWN_STEP UP_STEP @1CF00 ZNAMENNY_COMBINING_MARK_:
  GORAZDO_NIZKO_S_KRYZHEM_ON_LEFT NIZKO_S_KRYZHEM_ON_LEFT TSATA_ON_LEFT GORAZDO_NIZKO_ON_LEFT
  NIZKO_ON_LEFT SREDNE_ON_LEFT MALO_POVYSHE_ON_LEFT POVYSHE_ON_LEFT VYSOKO_ON_LEFT
  MALO_POVYSHE_S_KHOKHLOM_ON_LEFT POVYSHE_S_KHOKHLOM_ON_LEFT VYSOKO_S_KHOKHLOM_ON_LEFT
  GORAZDO_NIZKO_S_KRYZHEM_ON_RIGHT NIZKO_S_KRYZHEM_ON_RIGHT TSATA_ON_RIGHT GORAZDO_NIZKO_ON_RIGHT
  NIZKO_ON_RIGHT SREDNE_ON_RIGHT MALO_POVYSHE_ON_RIGHT POVYSHE_ON_RIGHT VYSOKO_ON_RIGHT
  MALO_POVYSHE_S_KHOKHLOM_ON_RIGHT POVYSHE_S_KHOKHLOM_ON_RIGHT VYSOKO_S_KHOKHLOM_ON_RIGHT
  TSATA_S_KRYZHEM MALO_POVYSHE_S_KRYZHEM STRANNO_MALO_POVYSHE POVYSHE_S_KRYZHEM POVYSHE_STRANNO
  VYSOKO_S_KRYZHEM MALO_POVYSHE_STRANNO GORAZDO_VYSOKO ZELO ON RAVNO TIKHAYA BORZAYA UDARKA
  PODVERTKA LOMKA KUPNAYA KACHKA ZEVOK SKOBA RAZSEKA KRYZH_ON_LEFT @1CF30
  ZNAMENNY_COMBINING_TONAL_RANGE_MARK_: MRACHNO SVETLO TRESVETLO ZNAMENNY_COMBINING_MARK_:
  ZADERZHKA DEMESTVENNY_ZADERZHKA OTSECHKA PODCHASHIE PODCHASHIE_WITH_VERTICAL_STROKE CHASHKA
  CHASHKA_POLNAYA OBLACHKO SOROCHYA_NOZHKA TOCHKA DVOETOCHIE ZNAMENNY_COMBINING_:
  ATTACHING_VERTICAL_OMET MARK_CURVED_OMET MARK_KRYZH LOWER_TONAL_RANGE_INDICATOR
  ZNAMENNY_PRIZNAK_MODIFIER_: LEVEL-2 LEVEL-3 DIRECTION_FLIP KRYZH ROG @1CF50 ZNAMENNY_NEUME_:
  KRYUK KRYUK_TIKHY PARAKLIT DVA_V_CHELNU KLYUCH ZANOZHEK STOPITSA STOPITSA_S_OCHKOM PEREVODKA
  PEREVODKA_NEPOSTOYANNAYA STOPITSA_WITH_SOROCHYA_NOZHKA CHELYUSTKA PALKA ZAPYATAYA
  ZNAMENNY_NEUME_GOLUBCHIK_: BORZY TIKHY MRACHNY SVETLY TRESVETLY ZNAMENNY_NEUME_VRAKHIYA_:
  PROSTAYA MRACHNAYA SVETLAYA TRESVETLAYA ZNAMENNY_NEUME_VRAKHIYA_KLYUCHEVAYA_: PROSTAYA MRACHNAYA
  SVETLAYA TRESVETLAYA ZNAMENNY_NEUME_: DOUBLE_ZAPYATAYA REVERSED_CHELYUSTKA DERBITSA KHAMILO
  CHASHKA PODCHASHIE SKAMEYTSA_MRACHNAYA SKAMEYTSA_SVETLAYA SKAMEYTSA_TRESVETLAYA SKAMEYTSA_TIKHAYA
  DEMESTVENNY_KLYUCH ZNAMENNY_NEUME_SKAMEYTSA_: KLYUCHEVAYA_SVETLAYA KLYUCHENEPOSTOYANNAYA
  KLYUCHEVAYA_TIKHAYA ZNAMENNY_NEUME_SKAMEYTSA_DVOECHELNAYA_: PROSTAYA SVETLAYA NEPOSTOYANNAYA
  KLYUCHEVAYA ZNAMENNY_NEUME_: SLOZHITIE SLOZHITIE_S_ZAPYATOY SLOZHITIE_ZAKRYTOE
  SLOZHITIE_S_KRYZHEM KRYZH ROG FITA KOBYLA ZMEYTSA STATYA ZNAMENNY_NEUME_STATYA_: S_ZAPYATOY
  S_KRYZHEM S_ZAPYATOY_I_KRYZHEM S_KRYZHEM_I_ZAPYATOY ZAKRYTAYA ZAKRYTAYA_S_ZAPYATOY S_ROGOM
  S_DVUMYA_ZAPYATYMI S_ZAPYATOY_I_PODCHASHIEM ZNAMENNY_NEUME_: POLKULIZMY STATYA_NEPOSTOYANNAYA
  ZNAMENNY_NEUME_STRELA_: PROSTAYA MRACHNOTIKHAYA KRYZHEVAYA POLUPOVODNAYA POVODNAYA NEPOSTOYANNAYA
  KLYUCHEPOVODNAYA KLYUCHENEPOSTOYANNAYA TIKHAYA_PUTNAYA DVOECHELNAYA DVOECHELNOKRYZHEVAYA
  DVOECHELNOPOVODNAYA DVOECHELNAYA_KLYUCHEVAYA DVOECHELNOPOVODNAYA_KLYUCHEVAYA
  GROMNAYA_WITH_SINGLE_ZAPYATAYA GROMOPOVODNAYA_WITH_SINGLE_ZAPYATAYA GROMNAYA GROMOPOVODNAYA
  GROMOPOVODNAYA_WITH_DOUBLE_ZAPYATAYA GROMOKRYZHEVAYA GROMOKRYZHEVAYA_POVODNAYA ZNAMENNY_NEUME_:
  MECHIK MECHIK_POVODNY MECHIK_KLYUCHEVOY MECHIK_KLYUCHEPOVODNY MECHIK_KLYUCHENEPOSTOYANNY
  STRELA_TRYASOGLASNAYA STRELA_TRYASOPOVODNAYA STRELA_TRYASOSTRELNAYA OSOKA OSOKA_SVETLAYA
  OSOKA_TRESVETLAYA OSOKA_KRYUKOVAYA_SVETLAYA OSOKA_KLYUCHEVAYA_SVETLAYA
  OSOKA_KLYUCHEVAYA_NEPOSTOYANNAYA STRELA_KRYUKOVAYA ZNAMENNY_NEUME_STRELA_KRYUKOVAYA_: POVODNAYA
  GROMNAYA_WITH_SINGLE_ZAPYATAYA GROMOPOVODNAYA_WITH_SINGLE_ZAPYATAYA GROMNAYA GROMOPOVODNAYA
  GROMOPOVODNAYA_WITH_DOUBLE_ZAPYATAYA GROMOKRYZHEVAYA GROMOKRYZHEVAYA_POVODNAYA TRYASKA
  ZNAMENNY_NEUME_: KUFISMA OBLAKO DUDA NEMKA PAUK
"

end EntityScaffold.Text.CharacterName
