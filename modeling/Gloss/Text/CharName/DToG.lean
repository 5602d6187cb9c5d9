/-! The names of characters that begin with a letter from D to G, as pages. -/

namespace Gloss.Text.CharName

/-- The page of the letter D. -/
def pageD : List String :=
  ["DAGGERf KNIFEgWITH LEFT GUARDlRIGHT GUARDbLET SYMBOLbNCERcGObRK SHADEfUNGLASSESbSH SYMBOLeWIT",
   "H LEFT UPTURNdED LOW LINEgOVERLINEgTRIANGLE-HEADED RIGHTWARDS ARROWbTA LINK ESCAPEaC1b2b3b4bS",
   "aEAF PERSONbCIDUOUS TREEdMAL EXPONENT SYMBOLhSEPARATOR KEY SYMBOLcREASE FONT SIZE SYMBOLbERbG",
   "REE CELSIUSgFAHRENHEITgSIGNbLcETEcIVERY TRUCKcTA EQUAL TObNTISTRY SYMBOL LIGHT DOWN AND HORIZ",
   "ONTALzp WITH CIRCLEzvTRIANGLEzvWAVEwUP AND HORIZONTALzn WITH CIRCLEztTRIANGLEztWAVEwVERTICAL ",
   "AND BOTTOM LEFTzqRIGHTzjTOP LEFTznRIGHTzjWAVEzfWITH CIRCLEzkTRIANGLEbPARTMENT STOREbRELICT HO",
   "USE BUILDINGbSCENDING NODEcERET CAPITAL LETTER AYwBEEwCHEEwDEEwEFxLxMxNyGxRxSyHxTHxWwGAYwHwJE",
   "EwKAYwLONG AzcHzbEzbIzbOzcOwOIxWwPEEwSHORT AzdHzcEzcIzcOzdOwTEExHEEwVEEwWUwYEEwZEExHEEhSMALL ",
   "LETTER AYuBEEuCHEEuDEEuEFvLvMvNwGvRvSwHvTHvWuGAYuHuJEEuKAYuLONG AzaHzEzIzOzaOuOIvWuPEEuSHORT ",
   "AzbHzaEzaIzaOzbOuTEEvHEEuVEEuWUuYEEuZEEvHEEeTf ISLANDcKTOP COMPUTERhWINDOWbVANAGARI ABBREVIAT",
   "ION SIGNlCUTE ACCENTkCARETkDANDAlIGIT EIGHTqFIVErOURqNINEqONEqSEVENrIXqTHREErWOqZEROlOUBLE DA",
   "NDAkGAP FILLERlRAVE ACCENTkHEADSTROKEkJAIN OMkLETTER AsAsIsUsWsYrBAsBAsHArCAtNDRA AyEyOsHArDA",
   "sDAtDAuHAtHAsHArErFArGAsGAsHAtHAsLOTTAL STOPrHAsEAVY YArIsIrJAsHAsJArKAsHAtHArLAsLAtLArMAtRWA",
   "RI DDArNAsGAsNAtNAsYArOsEsOErPAsHArQArRAsHAsRArSAsHAtORT AxExOsSArTAsHAsTAtHArUsEsUtErVAsOCAL",
   "IC LzaLzRzaRrYAsYArZAsHAkOMkSIGN ANUSVARAqVAGRAHApCANDRABINDUza AVAGRAHAzbTHREEzcWOzbVIRAMApD",
   "OUBLE CANDRABINDU VIRAMApHIGH SPACING DOTpINVERTED CANDRABINDUpNUKTApPUSHPIKApSIDDHAMqPACING ",
   "CANDRABINDUpVIRAMArSARGAlTRESS SIGN ANUDATTAwUDATTAkVOWEL SIGN AAwIwUwWwYvCANDRA EzcLONG EzcO",
   "vEvIwIvOwEwOEvPRISHTHAMATRA EvSHORT EzbOvUwEwUxEvVOCALIC LzeLzdRzeRcICE CONTROL FOURoONEoSTRI",
   "NGoTHREEpWOaIAERESIScMETER SIGNdOND OPERATORhSHAPE WITH A DOT INSIDEhTARGEThWITH BOTTOM HALF ",
   "BLACKmLEFT HALF BLACKmRIGHT HALF BLACKmTOP HALF BLACKbE FACE-1i2i3i4i5i6cSEL LOCOMOTIVEbFFERE",
   "NCE BETWEENbGIT EIGHTk COMMAlFULL STOPfFIVEj COMMAkFULL STOPgOURj COMMAkFULL STOPfNINEj COMMA",
   "kFULL STOPfONEi COMMAjFULL STOPfSEVENk COMMAlFULL STOPgIXi COMMAjFULL STOPfTHREEk COMMAlFULL ",
   "STOPgWOi COMMAjFULL STOPfZEROj COMMAkFULL STOPcRAM FOR EARTHpLY HEAVENtUMANkGREATER YANGtINkH",
   "EAVENLY EARTHlUMAN EARTHkLESSER YANGsINbMENSION ORIGINbNGBAT CIRCLED SANS-SERIF DIGIT EIGHTzg",
   "FIVEzhOURzgNINEzgONEzgSEVENzhIXzgTHREEzhWOzgZEROzaNUMBER TENhNEGATIVE CIRCLED DIGIT EIGHTzeFI",
   "VEzfOURzeNINEzeONEzeSEVENzfIXzeTHREEzfWOyNUMBER TENySANS-SERIF DIGIT EIGHTzpFIVEzqOURzpNINEzp",
   "ONEzpSEVENzqIXzpTHREEzqWOzpZEROzjNUMBER TENbRECT CURRENT SYMBOL FORM TWOgHITbSABLED CARdPPOIN",
   "TED BUT RELIEVED FACEmFACEcCONTINUOUS UNDERLINE SYMBOLcGUISED FACEbTTO MARKbVES AKURU DIGIT E",
   "IGHTrFIVEsOURrNINErONErSEVENsIXrTHREEsWOrZEROmOUBLE DANDAlEND OF TEXT MARKlGAP FILLERlINITIAL",
   " RAlLETTER AtAsBAtHAsCAtHAsDAtDAuHAtHAsEsGAtHAsHAsItIsJAsKAtHAsLAtLAsMAsNAtGAtNAtYAsOsPAtHAsR",
   "AsSAtHAtSAsTAtHAtTAsUtUsVAsYAtYAsZAlMEDIAL RAsYAlPREFIXED NASAL SIGNlSIGN ANUSVARAqCANDRABIND",
   "UqHALANTAqNUKTAlVIRAMAmOWEL SIGN AAxIwEwIxIwOwUxUcIDESdNG MASKdSION SIGNjLASHiTIMEScORCE SYMB",
   "OLbYA LAMPbZZY FACEfSYMBOLaLEaNA DOUBLE HELIXaO NOT LITTER SYMBOLbCUMENTh WITH PICTUREnTEXTr ",
   "AND PICTUREbDObES NOT CONTAIN AS MEMBERtNORMAL SUBGROUPzi OR EQUALiDIVIDEo WITH REVERSED NEGA",
   "TION SLASHiFORCEiPRECEDEp OR EQUALkOVEiSUCCEEDp OR EQUALbGc FACEcRA ABBREVIATION SIGNfLETTER ",
   "AnAnInUmBAnHAmCAnHAmDAnDAoHAnHAmEmGAnHAmHAmInImJAnHAmKAnHAmLAmMAmNAnGAnNAnYAmOmPAnHAmRAnRAmSA",
   "nHAnSAmTAnHAnTAoHAmUnUmVAmYAfSIGN ANUSVARAkNUKTAkVIRAMAmSARGAfVOWEL SIGN AArIrUqEqIrIqOqUrUqV",
   "OCALIC RzRbLLAR SIGNcPHINbMINO TILE HORIZONTAL BACKv-00-00za1za2za3za4za5za6x1-00za1za2za3za4",
   "za5za6x2-00za1za2za3za4za5za6x3-00za1za2za3za4za5za6x4-00za1za2za3za4za5za6x5-00za1za2za3za4z",
   "a5za6x6-00za1za2za3za4za5za6lVERTICAL BACKt-00-00y1y2y3y4y5y6v1-00y1y2y3y4y5y6v2-00y1y2y3y4y5",
   "y6v3-00y1y2y3y4y5y6v4-00y1y2y3y4y5y6v5-00y1y2y3y4y5y6v6-00y1y2y3y4y5y6bNG SIGNbORbT ABOVEdMIN",
   "USdOPERATORdPLUScTED CIRCLEhROSSgFENCEgLINE FACEgOBELOSgRIGHT-POINTING ANGLEgSOLIDUShQUAREgTR",
   "ANSPOSITION MARKERbUBLE ACUTE ACCENTgCIRCLED DIGIT EIGHTuFIVEvOURuNINEuONEuSEVENvIXuTHREEvWOo",
   "NUMBER TENhOLON EQUALhURLY LOOPgDAGGERhOWN TACKgEXCLAMATION MARKgHIGH-REVERSED-9 QUOTATION MA",
   "RKhYPHENgINTEGRALkRSECTIONgLEFT ARC GREATER-THAN BRACKEThOGICAL ANDoORiW LINEj-9 QUOTATION MA",
   "RKkREVERSED-9 QUOTATION MARKgNESTED GREATER-THANnLESS-THANw WITH UNDERBARgOBLIQUE HYPHENgPLUS",
   "hRECEDESiIMEl QUOTATION MARKgQUESTION MARKgRIGHT ARC LESS-THAN BRACKETgSOLIDUS OPERATORhQUARE",
   " INTERSECTIONnUNIONhTACKED COMMAiROKE NOT SIGNhUBSETiCCEEDSiPERSETiSPENSION MARKgUNIONhP TACK",
   "gVERTICAL BARs DOUBLE LEFT TURNSTILEzaRIGHT TURNSTILEtLEFT TURNSTILEpLINEgWAVY OVERLINEf-ENDE",
   "D MULTIMAPgLINE EQUAL TO OR GREATER-THANxLESS-THANlSLANTED EQUAL TO OR GREATER-THANzfLESS-THA",
   "NtGREATER-THAN OR EQUAL TOtLESS-THAN OR EQUAL TOgSTRUCK CAPITAL CvGAMMAvHvNvPwIvQvRvZnITALIC ",
   "CAPITAL DuSMALL DzaEzaIzaJnN-ARY SUMMATIONnSMALL GAMMAtPIfD FEMALE SIGNhMALE SIGNhSYMBOLcGHNU",
   "TbVE OF PEACEbWN ARROWHEADeFISH TAILeRIGHT DIAGONAL ELLIPSISeTACKi WITH CIRCLE BELOWd-POINTIN",
   "G RED TRIANGLEnSMALL RED TRIANGLEnTRIANGLE WITH LEFT HALF BLACKzbRIGHT HALF BLACKdWARD FACING",
   " HOOKt WITH DOTpNOTCHED HOOKzb WITH DOThS ANCORAkRROWo AND RIGHT ONE EIGHTH BLOCKpFROM BARpLE",
   "FTWARDS OF UPWARDS ARROWpTO BARpWITH CORNER LEFTWARDSuDOUBLE STROKEuEQUILATERAL ARROWHEADuHOR",
   "IZONTAL STROKEuLARGE TRIANGLE ARROWHEADuMEDIUM TRIANGLE ARROWHEADuNOTCHED TAILuSMALL EQUILATE",
   "RAL ARROWHEADzaTRIANGLE ARROWHEADuTIP LEFTWARDSyRIGHTWARDSjBLACK ARROWpCIRCLED WHITE ARROWjCO",
   "MPRESSED ARROWjDASHED ARROWkOUBLE ARROWjFINGER-POST ARROWjHARPOON WITH BARB LEFT BESIDE DOWNW",
   "ARDS HARPOON WITH BARB RIGHTznUPWARDS HARPOON WITH BARB RIGHTzgFROM BARzgTO BARzfWARDSzbRIGHT",
   " FROM BARzhTO BARzgWARDSkEAVY ARROWpCOMPRESSED ARROWjPAIRED ARROWSjQUADRUPLE ARROWjROCKETjSAN",
   "S-SERIF ARROWkQUARED ARROWjTRIANGLE ARROWHEADr-HEADED ARROWze LEFTWARDS OF UPWARDS TRIANGLE-H",
   "EADED ARROWzfTO BARzfWITH BOLD SHAFTzkDOUBLE HORIZONTAL STROKEzkHEAVY SHAFTzkLONG TIP LEFTWAR",
   "DSztRIGHTWARDSzkMEDIUM SHAFTzkNARROW SHAFTzkVERY HEAVY SHAFTzDASHED ARROWzPAIRED ARROWSzZIGZA",
   "G ARROWmPLE ARROWkWO HEADED ARROWm-HEADED ARROW WITH TRIANGLE ARROWHEADSjWHITE ARROWu WITHIN ",
   "TRIANGLE ARROWHEADjZIGZAG ARROWaRACHMA SIGNcFTING POINT RIGHTWARDS ARROWcGONf FACEbESSbIVE SL",
   "OW SIGNbOMEDARY CAMELcOLING FACEcP OF BLOODdLETbUM WITH DRUMSTICKSaUCKbMPLINGbPLOYAN AFFIX AT",
   "TACHED E HOOKxI HOOKxLEFT-TO-RIGHT SECANTxSECANTxTAILzNGENTze HOOKoHIGH ACUTEtCIRCLEtDOTtGRAV",
   "EtLINEuONG GRAVEtTIGHT ACUTEtVERTICALzb SECANTtWAVEoLEFT HORIZONTAL SECANTpOW ACUTEtRROWsCIRC",
   "LEsDOTsGRAVEsLINEtONG GRAVEsTIGHT ACUTEsVERTICALza SECANTsWAVEoMID HORIZONTAL SECANTsVERTICAL",
   " SECANToRIGHT HORIZONTAL SECANTiDOUBLE MARKiLETTER AqOUpBpDq SqHpEqEqUpFq NpGq R SpHqLpIqEpJq",
   " Ms SrNs SrSs WITH DOTrWITH DOTzS INSIDE AND ABOVEpKq MrR SqKpLqHqONG IuUpMq Ns SrSrWITH DOTp",
   "Nq Ms SrSrWITH DOTqASAL AvIvOvUpOqAqOHqUqWpPq NqERNIN AMxNpRq SqHqOMANIAN IyUpSq Js SrKs RrMr",
   "NrPs RrSrTs RrWITH DOTz BELOWqHORT IqLOAN ANvDHvEEwHwNvJvONwWvUpTq R SrSqHpUq NqHqIpVqOCALIC ",
   "MpWq RqAqEIqHqIqOrWpXqWpYEiPUNCTUATION CHINOOK FULL STOPiSIGN O WITH CROSSiTHICK LETTER SELEC",
   "TORaVD"]

/-- The page of the letter E. -/
def pageE : List String :=
  ["E-MAIL SYMBOLaAGLEbRc OF MAIZEgRICEdWITH HEARING AIDcTHe GLOBE AMERICASmSIA-AUSTRALIAlEUROPE-",
   "AFRICAgROUNDbST SYRIAC CROSSaDITORIAL CORONISaGGbYPTIAN HIEROGLYPH A001w2w3w4w5xAw6xAxBw7w8w9",
   "v10w1w2w3w4xAw5w6w7xAw8w9v20w1w2w3w4w5w6w7w8w9v30w1w2xAw3w4w5w6w7w8w9v40xAw1w2xAw3xAw4w5xAw6w",
   "7w8w9v50w1w2w3w4w5w6w7w8w9v60w1w2w3w4w5w6w7w8w9v70uA001x2x3x4x5x6x7yAyBx8x9w10x1x2x3x4x5x6x7x",
   "8x9w20x1x2x3x4x5x6x7x8x9w30x1x2tB001w2w3w4w5xAw6w7w8w9uEGIN SEGMENTtC001w2xAxBxCw3w4w5w6w7w8w",
   "9v10xAw1w2w3w4w5w6w7w8w9v20w1w2w3w4tD001w2w3w4w5w6w7w8xAw9v10w1w2w3w4w5w6w7w8w9v20w1w2w3w4w5w",
   "6w7xAw8w9v30w1xAw2w3w4xAw5w6w7w8w9v40w1w2w3w4w5w6xAw7w8xAw9v50xAxBxCxDxExFxGxHxIw1w2xAw3w4xAw",
   "5w6w7w8w9v60w1w2w3w4w5w6w7xAxBxCxDxExFxGxHtE001w2w3w4w5w6w7w8xAw9xAv10w1w2w3w4w5w6xAw7xAw8w9v",
   "20xAw1w2w3w4w5w6w7w8xAw9v30w1w2w3w4xAw6w7w8uND SEGMENTtF001xAw2w3w4w5w6w7w8w9v10w1w2w3xAw4w5w",
   "6w7w8w9v20w1xAw2w3w4w5w6w7w8w9v30w1xAw2w3w4w5w6w7xAw8xAw9v40w1w2w3w4w5xAw6xAw7xAw8w9v50w1xAxB",
   "xCw2w3tG001w2w3w4w5w6xAw7xAxBw8w9v10w1xAw2w3w4w5w6w7w8w9v20xAw1w2w3w4w5w6xAw7w8w9v30w1w2w3w4w",
   "5w6xAw7xAw8w9v40w1w2w3xAw4w5xAw6w7w8w9v50w1w2w3w4tH001w2w3w4w5w6xAw7w8uORIZONTAL JOINERtI001w",
   "2w3w4w5xAw6w7w8w9xAv10xAw1xAw2w3w4w5uNSERT AT BOTTOM ENDzkSTARTzdTOP ENDzhSTARTtK001w2w3w4w5w",
   "6w7w8tL001w2xAw3w4w5w6xAw7w8tM001xAxBw2w3xAw4w5w6w7w8w9v10xAw1w2xAxBxCxDxExFxGxHw3w4w5xAw6xAw",
   "7xAw8w9v20w1w2xAw3w4xAw5w6w7w8xAw9v30w1xAw2w3xAxBw4w5w6w7w8w9v40xAw1w2w3w4tN001w2w3w4w5w6w7w8",
   "w9v10w1w2w3w4w5w6w7w8xAxBw9v20w1w2w3w4w5xAw6w7w8w9v30w1w2w3xAw4xAw5xAw6w7xAw8w9v40w1w2uL001x2",
   "x3x4x5yAx6x7x8x9w10x1x2x3x4x5x6x7yAx8x9w20uU001x2x3x4x5x6x7x8x9w10yAx1yAx2x3x4x5x6x7x8yAx9w20",
   "x1x2yAtO001xAw2w3w4w5xAw6xAxBxCxDxExFw7w8w9v10xAxBxCw1w2w3w4w5w6w7w8w9xAv20xAw1w2w3w4xAw5xAw6",
   "w7w8w9xAv30xAw1w2w3xAw4w5w6xAxBxCxDw7w8w9v40w1w2w3w4w5w6w7w8w9v50xAxBw1uVERLAY MIDDLEtP001xAw",
   "2w3xAw4w5w6w7w8w9v10w1tQ001w2w3w4w5w6w7tR001w2xAw3xAxBw4w5w6w7w8w9v10xAw1w2w3w4w5w6xAw7w8w9v2",
   "0w1w2w3w4w5w6w7w8w9tS001w2xAw3w4w5w6xAw7w8w9v10w1w2w3w4xAxBw5w6w7xAw8w9v20w1w2w3w4w5w6xAxBw7w",
   "8w9v30w1w2w3w4w5xAw6w7w8w9v40w1w2w3w4w5w6tT001w2w3xAw4w5w6w7xAw8xAw9xAv10w1xAw2w3w4w5w6xAw7w8",
   "w9v20w1w2w3w4w5w6w7w8w9v30w1w2xAw3xAw4w5w6tU001w2w3w4w5w6xAxBw7w8w9v10w1w2w3w4w5w6w7w8w9v20w1",
   "w2w3xAw4w5w6w7w8w9xAv30w1w2xAw3w4w5w6w7w8w9v40w1w2tV001xAxBxCxDxExFxGxHxIw2xAw3w4w5w6w7xAxBw8",
   "w9v10w1xAxBxCw2xAxBw3w4w5w6w7w8w9v20xAxBxCxDxExFxGxHxIxJxKxLw1w2w3xAw4w5w6w7w8xAw9xAv30xAw1xA",
   "w2w3xAw4w5w6w7xAw8w9v40xAuERTICAL JOINERtW001w2w3xAw4w5w6w7w8w9xAv10xAw1w2w3w4xAw5w6w7xAw8xAw",
   "9v20w1w2w3w4xAw5tX001w2w3w4xAxBw5w6xAw7w8xAtY001xAw2w3w4w5w6w7w8tZ001w2xAxBxCxDw3xAxBw4xAw5xA",
   "w6w7w8w9v10w1w2w3w4w5xAxBxCxDxExFxGxHxIw6xAxBxCxDxExFxGxHaIGHT PETALLED OUTLINED BLACK FLORET",
   "TEgOINTED BLACK STARnPINWHEEL STARnRECTILINEAR BLACK STARfSPOKED ASTERISKfTEARDROP-SPOKED PRO",
   "PELLER ASTERISKeH NOTEaJECT SYMBOLaLBASAN LETTER AoBEoCEpHEoDEpHEoEpIoFEoGEpHAMMAqEpJEoHEoIoJ",
   "EoKEpHEoLEpLEoMEoNApDEpEpJEoOoPEoQEoREpREoSEpHEoTEpHEoUoVEoXEoYoZEpHEbECTRIC ARROWiLIGHT BULB",
   "iPLUGiTORCHhAL INTERSECTIONcMENT OFj OPENING DOWNWARDSsUPWARDSkWITH DOT ABOVEpLONG HORIZONTAL",
   " STROKEpOVERBARpTWO HORIZONTAL STROKESpUNDERBARpVERTICAL BAR AT END OF HORIZONTAL STROKEcPHAN",
   "TcVATORbFbYMAIC LETTER ALEPHpYINoBETHoDALETHoGIMELoHEqTHoKAPHoLAMEDHoMEMoNUNoPEoQOPHoRESHoSAD",
   "HEqMEKHpHINoTAWpETHoWAWoYODHoZAYINiIGATURE ZAYIN-YODHaM DASHcQUADcSPACEbOJI COMPONENT BALDpCU",
   "RLY HAIRpRED HAIRpWHITE HAIRfMODIFIER FITZPATRICK TYPE-1-2zf3zf4zf5zf6bPHASIS SYMBOLcTY DOCUM",
   "ENTfNESTgOTEj PADmGEfPAGEjSfSETi WITH LEFT ARROW ABOVEoOVERBARoRIGHT ARROW ABOVEoSMALL CIRCLE",
   " ABOVEaN DASHcQUADcSPACEbD OF GUARDED AREAgLINEgMEDIUMgPROOFjTECTED AREAgSELECTED AREAgTEXThR",
   "ANSMISSIONs BLOCKdWITH LEFTWARDS ARROW ABOVEbQcUIRYbTER SYMBOLbVELOPEh WITH DOWNWARDS ARROW A",
   "BOVEnLIGHTNINGaOLbMbTaPAaQUAL AND PARALLEL TOfTO BY DEFINITIONiOR GREATER-THANlLESS-THANlPREC",
   "EDESlSUCCEEDSeS COLONgSIGNk ABOVE LEFTWARDS ARROWrPLUS SIGNrRIGHTWARDS ARROWrTILDE OPERATORmN",
   "D SLANTED PARALLELzf WITH TILDE ABOVElWITH BUMPY ABOVEqDOT BELOWqINFINITY BELOWqTWO DOTS ABOV",
   "E AND TWO DOTS BELOWgWITH ASTERISKcIANGULAR TOdVALENT TOkWITH FOUR DOTS ABOVEaRASE TO THE LEF",
   "TmRIGHTbIS FORM ONEjTWObROR-BARRED BLACK CIRCLEsDIAMONDsSQUAREmWHITE CIRCLEsDIAMONDsSQUAREaSA",
   "bCcAPEbTIMATED SYMBOLhSaTBbHIOPIC COLONkMBINING GEMINATION AND VOWEL LENGTH MARKzdMARKsVOWEL ",
   "LENGTH MARKlMAiDIGIT EIGHToFIVEpOURoNINEoONEoSEVENpIXoTHREEpWOiFULL STOPiNUMBER EIGHTYpFIFTYq",
   "ORTYpHUNDREDpNINETYpSEVENTYqIXTYpTENs THOUSANDqHIRTYqWENTYiPARAGRAPH SEPARATORjREFACE COLONiQ",
   "UESTION MARKiSECTION MARKkMICOLONjYLLABLE BAtAsBAuAtEuEtItOtUsEtEsIsOtAsUsWAtEuEtIrCAtAsCAuAt",
   "EuEtHAvAuEvEuHAwAvEwEvIvOvUuIuOuUtItOtUsEtEsHAuAtEuEtItOuAtUtWAsIsOtAsUsWArDAtAsDAuAtEuEtHAAu",
   "EvEuIuOuUtItOuAtUtWAsEtEsIsOtAsUsWAsZAAtEuEtItOtUrFAtAsEtEsIsOsUsWAtEuEtIsYArGAtAsEtEsGAuAtEu",
   "EtItOtUtWAvAuEvEuIsIsLOTTAL AzaAzEzaEzIzOzaAzUzWAsOtAsUtRAGE BWEEzaIyFWEEzaIyGWEzbEzaIyHHWAyK",
   "WEzbEzaIyMWEEzaIyPWEEzaIyQWEzbEzaIsWAuAtEuEtIsYAuAtEuEtItOtUrHAtAsEtEsHAuAtEuEtItOtUtWAuEvEuI",
   "tYAvAuEvEuIuOuUsIsOtAsUrJAtAsEtEsIsOtAsUsWArKAtAsEtEsIsOtAsUsWAuAtEuEtIsXAuAtEuEtItOtUtWAvAuE",
   "vEuIsYAuAtEuEtItOtUrLAtAsEtEsIsOtAsUsWArMAtAsEtEsIsOtAsUsWAtEuEtIsYArNAtAsEtEsIsOtAsUsWAsYAuA",
   "tEuEtItOuAtUtWArPAtAsEtEsHAuAuRYNGEAL AzdAzcEzdEzcIzcOzcUtEuEtItOuAtUtWAsIsOtAsUsWAtEuEtIrQAt",
   "AsEtEsHAuAtEuEtItOtUtWAvAuEvEuIsIsOtAsUsWAuAtEuEtIsYAuAtEuEtItOtUrRAtAsEtEsIsOtAsUsWAsYArSAtA",
   "sEtBATBEIT BWAzbFWAzbMWAzbPWAtEsHAuAtEuEtItOuAtUtWAsIsOtAsSAuAtEuEtItOtUsUsWAsZAuAtEuEtItOtUt",
   "WArTAtAsEtEsHAuAtEuEtItOuAtUtWAsIsOtAsSAuAtEuEtItOtUtWAsTHAAuEvEuIuOuUsUsWAsZAuAtEuEtItOuAtUr",
   "VAtAsEtEsIsOsUsWArWAtAsEtEsIsOtAsUrXAtAsEtEsIsOtAsUsWAuAtEuEtIsYAuAtEuEtItOtUrYAtAsEtEsIsOtAs",
   "UrZAtAsEtEsHAuAtEuEtItOtUtWAsIsOtAsUsWAsZAuAtEuEtItOtUiTONAL MARK CHIRETtDERETy-HIDETuIFATtHI",
   "DETtKENATuURTtRIKRIKtSHORT RIKRIKtYIZETiWORDSPACEbXaULER CONSTANTbRO SIGNd-CURRENCY SIGNdPEAN",
   " CASTLEiPOST OFFICEaVERGREEN TREEaXCESScLAMATION MARKlQUESTION MARKbPRESSIONLESS FACEbTENDED ",
   "ARABIC-INDIC DIGIT EIGHTzbFIVEzcOURzbNINEzbONEzbSEVENzcIXzbTHREEzcWOzbZEROcRATERRESTRIAL ALIE",
   "NdEMELY HEAVY FIVE SPOKED ASTERISKpGREEK CROSSpSALTIREqIX SPOKED ASTERISKpWHITE CIRCLEvSQUARE",
   "aYEcGLASSEScS"]

/-- The page of the letter F. -/
def pageF : List String :=
  ["FACE HOLDING BACK TEARSeMASSAGEePALMeSAVOURING DELICIOUS FOODfCREAMING IN FEAReTHROWING A KIS",
   "SeWITH COLD SWEATlWBOY HATjDIAGONAL MOUTHjFINGER COVERING CLOSED LIPSjHEAD-BANDAGEjLOOK OF TR",
   "IUMPHjMEDICAL MASKkONOCLEjNO GOOD GESTUREjOK GESTUREkNE EYEBROW RAISEDkPEN EYES AND HAND OVER",
   " MOUTHoMOUTHt AND COLD SWEATuVOMITINGjPARTY HORN AND PARTY HATkEEKING EYEkLEADING EYESjROLLIN",
   "G EYESjSTUCK-OUT TONGUEz AND TIGHTLY-CLOSED EYESzeWINKING EYEjTEARS OF JOYkHERMOMETERjUNEVEN ",
   "EYES AND WAVY MOUTHiOUT MOUTHcSIMILE SIGNcTORYbIRYbLAFELcLEN LEAFdING DIAGONAL CROSSING NORTH",
   " EAST ARROWzRISING DIAGONALqIN WHITE CIRCLE IN BLACK SQUAREbMILYbRSI SYMBOLbTHER CHRISTMASbX ",
   "ICONdMACHINEaEARFUL FACEcTHERbMALE SIGNcININE ORDINAL INDICATORbNCERbRRIS WHEELdYaFaIELD HOCK",
   "EY STICK AND BALLbGURE DASHgSPACEbLE CABINETeFOLDEReSEPARATORcM FRAMESePROJECTORbNITE PART IN",
   "TEGRALbREd ENGINEfXTINGUISHERdCRACKERdWORK SPARKLERhScST PLACE MEDALfQUARTER MOONr SYMBOLsWIT",
   "H FACEfSTRONG ISOLATEbSHd CAKE WITH SWIRL DESIGNdEYEdING POLE AND FISHcTED HAND SIGNbVE DOT M",
   "ARKiPUNCTUATIONaLAG IN HOLEcMINGOcT SHOEdBREADdNESSbEUR-DE-LIScXED BICEPSbOPPY DISKcRAL HEART",
   "cWERf PLAYING CARDShUNCTUATION MARKbUSHED FACEbYcING DISCgENVELOPEgSAUCERaOGcGYbLDERbNDUEbOTd",
   "PRINTSbR ALLcCEScK AND KNIFEn WITH PLATEdED PARAGRAPHOSdINGcM FEEDcTUNE COOKIEbUNTAINcR BALLO",
   "ON-SPOKED ASTERISKeCLUB-SPOKED ASTERISKfORNER ARROWS CIRCLING ANTICLOCKWISEeDOT MARKiPUNCTUAT",
   "IONeLEAF CLOVERePOINTED BLACK STAReTEARDROP-SPOKED ASTERISKd-PER-EM SPACEdTH ROOTbX FACEaRACT",
   "ION NUMERATOR ONEiSLASHcME WITH AN XkPICTUREkTILESbEEZING FACEcNCH FRANC SIGNiIESbIED SHRIMPb",
   "OG FACEcNT-FACING BABY CHICKfTILTED SHADOWED WHITE RIGHTWARDS ARROWcWNeING FACE WITH OPEN MOU",
   "THaSbIaUEL PUMPbLL BLOCKeMOON SYMBOLjWITH FACEeOUTER JOINeSTOPdWIDTH AMPERSANDkPOSTROPHEkSTER",
   "ISKjBROKEN BARjCENT SIGNkIRCUMFLEX ACCENTkOLONlMMAnERCIAL ATjDIGIT EIGHTpFIVEqOURpNINEpONEpSE",
   "VENqIXpTHREEqWOpZEROkOLLAR SIGNjEQUALS SIGNkXCLAMATION MARKjFULL STOPjGRAVE ACCENTlEATER-THAN",
   " SIGNjHYPHEN-MINUSjLATIN CAPITAL LETTER AzeBzeCzeDzeEzeFzeGzeHzeIzeJzeKzeLzeMzeNzeOzePzeQzeRz",
   "eSzeTzeUzeVzeWzeXzeYzeZpSMALL LETTER AzcBzcCzcDzcEzcFzcGzcHzcIzcJzcKzcLzcMzcNzcOzcPzcQzcRzcSz",
   "cTzcUzcVzcWzcXzcYzcZkEFT CURLY BRACKEToPARENTHESISoSQUARE BRACKEToWHITE PARENTHESISlSS-THAN S",
   "IGNkOW LINEjMACRONjNOT SIGNkUMBER SIGNjPERCENT SIGNkLUS SIGNkOUND SIGNjQUESTION MARKlOTATION ",
   "MARKjREVERSE SOLIDUSkIGHT CURLY BRACKETpPARENTHESISpSQUARE BRACKETpWHITE PARENTHESISjSEMICOLO",
   "NkOLIDUSjTILDEjVERTICAL LINEjWON SIGNjYEN SIGNbNCTION APPLICATIONcERAL URNbSEaVS1c2c3c4"]

/-- The page of the letter G. -/
def pageG : List String :=
  ["GAME DIEbRLICaEARd WITH HANDLESiOUT HUBbM STONEcINIbNIEbOMETRIC PROPORTIONiALLY EQUAL TOqIVAL",
   "ENT TOcRGIAN CAPITAL LETTER AENyNxBANxCANyHARzINyILxDONxENxGANyHANxHAEzRyEyIEyOExINxJHANyILxK",
   "ANyHARxLASxMANxNARxONxPARyHARxQARxRAExSANyHINxTANzRxUNxVINxWExXANxYNxZENyHARiLETTER AENqINqNp",
   "BANpCANqHARrINqILpDONpELIFIqNpFIpGANqHANpHAErRsD SIGNqEqIEqOEpINpJHANqILpKANqHARpLABIAL SIGNr",
   "SpMANpNARpONpPARqHARpQARpRAEpSANqHINpTANrRqURNED GANpUNpVINpWEpXANpYNpZENqHARiMTAVRULI CAPITA",
   "L LETTER AENzhINzhNzgBANzgCANzhHARziINzhILzgDONzgELIFIzhNzgFIzgGANzhHANzgHAEziRzjD SIGNzhEzhI",
   "EzhOEzgINzgJHANzhILzgKANzhHARzgLABIAL SIGNziSzgMANzgNARzgONzgPARzhHARzgQARzgRAEzgSANzhHINzgTA",
   "NziRzhURNED GANzgUNzgVINzgWEzgXANzgYNzgZENzhHARiPARAGRAPH SEPARATORiSMALL LETTER AENwNvBANvCA",
   "NwHARxINwILvDONvENvGANwHANvHAExRwEwIEwOEvINvJHANwILvKANwHARvLASvMANvNARvONvPARwHARvQARvRAEvSA",
   "NwHINvTANxRvUNvVINvWEvXANvYNvZENwHARbRMAN PENNY SIGNbTA MARKaHOSTaIMEL SYMBOLbRAFFE FACEcLdS ",
   "SYMBOLaLAGOLITIC CAPITAL LETTER AZUzBIG YUSzaUKYzCAUDATE CHRIVIzaHRIVIzDJERVIzaOBROzaZELOzFIT",
   "AzaRITUzGLAGOLIzHERUzIzaNITIAL IZHEzaOTATED BIG YUSzhSMALL YUSzaZHEzcITSAzKAKOzLATINATE MYSLI",
   "TEzaJUDIJEzMYSLITEzNASHIzONUzaTUzPEzaOKOJIzRITSIzSHAzbTAzdPICzaLOVOzaMALL YUSzi WITH TAILzaPI",
   "DERY HAzTROKUTASTI AzaSIzaVRIDOzUKUzVEDEzYATIzaERIzcUzbSTUzaOzaUzZEMLJAzaHIVETEkSMALL LETTER ",
   "AZUxBIG YUSyUKYxCAUDATE CHRIVIyHRIVIxDJERVIyOBROyZELOxFITAyRITUxGLAGOLIxHERUxIyNITIAL IZHEyOT",
   "ATED BIG YUSzfSMALL YUSyZHEzaITSAxKAKOxLATINATE MYSLITEyJUDIJExMYSLITExNASHIxONUyTUxPEyOKOJIx",
   "RITSIxSHAzTAzbPICyLOVOyMALL YUSzg WITH TAILyPIDERY HAxTROKUTASTI AySIyVRIDOxUKUxVEDExYATIyERI",
   "zaUzSTUyOyUxZEMLJAyHIVETEcSS OF MILKbEICH STARKbOBE WITH MERIDIANScVEScWING STARaOAL NETcTbGG",
   "LESbLFERbRILLAbTHIC LETTER AHSAoIHVUSnBAIRKANnDAGSnEISnFAIHUnGIBAnHAGLoWAIRnIGGWSoUJAnJERnKUS",
   "MAnLAGUSnMANNAnNAUTHSoINE HUNDREDrTYnOTHALnPAIRTHRAnQAIRTHRAnRAIDAnSAUILnTEIWSoHIUTHnURUSnWIN",
   "JAaRADUATION CAPcNTHA AU LENGTH MARKhLETTER ApApIpUoBApHAoCApHAoDApDAqHApHAoEEoGApHAoHAoIpIoJ",
   "ApHAoKApHAoLApLAoMAoNApGApNApYAoOOoPApHAoRAoSApHApSAoTApHApTAqHAoUpUoVApEDIC ANUSVARAuDOUBLE ",
   "ANUSVARApOCALIC LxLwRxRoYAhOMhSIGN ANUSVARAnVAGRAHAmCANDRABINDUnOMBINING ANUSVARA ABOVEmNUKTA",
   "mPLUTAmVIRAMAoSARGAhVOWEL SIGN AAtItUsEEsItIsOOsUtUsVOCALIC LzbLzaRzbRcPEScVE ACCENTbEATER-TH",
   "AN ABOVE DOUBLE-LINE EQUAL ABOVE LESS-THANsLESS-THAN ABOVE DOUBLE-LINE EQUALsRIGHTWARDS ARROW",
   "sSIMILAR ABOVE LESS-THANzaOR EQUALtLANTED EQUAL ABOVE LESS-THAN ABOVE SLANTED EQUALnND NOT AP",
   "PROXIMATEqSINGLE-LINE NOT EQUAL TOmBESIDE LESS-THANnUT NOT EQUAL TOxIVALENT TOmCLOSED BY CURV",
   "Ezb ABOVE SLANTED EQUALmEQUAL TO OR LESS-THANmOR APPROXIMATEpEQUAL TOsIVALENT TOpLESS-THANpSL",
   "ANTED EQUAL TOzf WITH DOT ABOVEzu LEFTzpINSIDEnVER EQUAL TOqLAPPING LESS-THANmSIGNmWITH CIRCL",
   "E INSIDErDOTrQUESTION MARK ABOVEcEK ACROPHONIC ATTIC FIFTYzb STATERSzcTALENTSzdHOUSANDzk STAT",
   "ERSyVEza HUNDREDzi STATERSzjTALENTSzbSTATERSzbTALENTSzcHOUSANDzj TALENTSwONE DRACHMAzaHALFzbU",
   "NDRED STATERSziTALENTSzaQUARTERzaTHOUSAND STATERSzjTALENTSwTEN MNASzaSTATERSzaTALENTSzbHOUSAN",
   "D STATERSqCARYSTIAN FIVE HUNDREDrYRENAIC TWO DRACHMASqDELPHIC FIVE MNASqEPIDAUREAN FIVE HUNDR",
   "EDzbTWOze DRACHMASqHERAEUM ONE PLETHRONtMIONIAN FIFTYzbONEzbTENqMESSENIAN TENqNAXIAN FIVE HUN",
   "DREDqSTRATIAN FIFTY MNASqTHESPIAN FIFTYzbVE HUNDREDzeTHOUSANDzONEzc HUNDREDzdTHOUSANDzTENzaHI",
   "RTYzbREE HUNDREDzaWOrROEZENIAN FIFTYzg ALTERNATE FORMzdVEzf HUNDREDzbTENze ALTERNATE FORMgNO ",
   "TELEIAgROURA SIGNhTABE SIGNfBETA SYMBOLfCAPITAL DOTTED LUNATE SIGMA SYMBOLnKAI SYMBOLnLETTER ",
   "ALPHAz WITH DASIAzk AND OXIAzt AND PROSGEGRAMMENIzpPERISPOMENIzza AND PROSGEGRAMMENIzqROSGEGR",
   "AMMENIzpVARIAzu AND PROSGEGRAMMENIzfMACRONzfOXIAzfPROSGEGRAMMENIzgSILIzk AND OXIAzt AND PROSG",
   "EGRAMMENIzpPERISPOMENIzza AND PROSGEGRAMMENIzqROSGEGRAMMENIzpVARIAzu AND PROSGEGRAMMENIzfTONO",
   "SzfVARIAzgRACHYvRCHAIC SAMPIuBETAuCHIuDELTAuEPSILONzb WITH DASIAzm AND OXIAzrVARIAzhOXIAzhPSI",
   "LIzm AND OXIAzrVARIAzhTONOSzhVARIAvTAx WITH DASIAzi AND OXIAzr AND PROSGEGRAMMENIznPERISPOMEN",
   "Izy AND PROSGEGRAMMENIzoROSGEGRAMMENIznVARIAzs AND PROSGEGRAMMENIzdOXIAzdPROSGEGRAMMENIzeSILI",
   "zi AND OXIAzr AND PROSGEGRAMMENIznPERISPOMENIzy AND PROSGEGRAMMENIzoROSGEGRAMMENIznVARIAzs AN",
   "D PROSGEGRAMMENIzdTONOSzdVARIAuGAMMAuHETAuIOTAy WITH DASIAzj AND OXIAzoPERISPOMENIzoVARIAzfIA",
   "LYTIKAzeMACRONzeOXIAzePSILIzj AND OXIAzoPERISPOMENIzoVARIAzeTONOSzeVARIAzfRACHYuKAPPAuLAMDAuM",
   "UuNUuOMEGAz WITH DASIAzk AND OXIAzt AND PROSGEGRAMMENIzpPERISPOMENIzza AND PROSGEGRAMMENIzqRO",
   "SGEGRAMMENIzpVARIAzu AND PROSGEGRAMMENIzfOXIAzfPROSGEGRAMMENIzgSILIzk AND OXIAzt AND PROSGEGR",
   "AMMENIzpPERISPOMENIzza AND PROSGEGRAMMENIzqROSGEGRAMMENIzpVARIAzu AND PROSGEGRAMMENIzfTONOSzf",
   "VARIAwICRONzb WITH DASIAzm AND OXIAzrVARIAzhOXIAzhPSILIzm AND OXIAzrVARIAzhTONOSzhVARIAuPAMPH",
   "YLIAN DIGAMMAvHIvIvSIuRHOx WITH DASIAuSANvHOvIGMAuTAUvHETAuUPSILONzb WITH DASIAzm AND OXIAzrP",
   "ERISPOMENIzrVARIAziIALYTIKAzhMACRONzhOXIAzhTONOSzhVARIAziRACHYuXIuYOTuZETAoUNATE SIGMA SYMBOL",
   "nREVERSED DOTTED LUNATE SIGMA SYMBOLwLUNATE SIGMA SYMBOLnTHETA SYMBOLfDASIAk AND OXIApPERISPO",
   "MENIpVARIAgIALYTIKA AND OXIAtPERISPOMENItVARIApTONOSgRACHMA SIGNfFIVE OBOLS SIGNgOUR OBOLS SI",
   "GNfGRAMMA SIGNfINDICTION SIGNhSTRUMENTAL NOTATION SYMBOL-1zj1zj2zj3zj4zj7zj8zj9zi2zj3zj4zj5zj",
   "6zj7zj9zi30zj2zj6zj7zj8zj9zi4zj0zj2zj3zj5zj7zj8zj9zi5zj0zj1zj2zj3zj4zi7zi8fKAI SYMBOLhPPA SYM",
   "BOLgORONISgYATHOS BASE SIGNfLETTER ARCHAIC KOPPAmDIGAMMAmKOPPAmSAMPInMALL CAPITAL GAMMAzaLAMD",
   "AzaOMEGAzaPIzbSIzaRHOnTIGMAmYOTgITRA SIGNgOWER NUMERAL SIGNgUNATE EPSILON SYMBOLmSIGMA SYMBOL",
   "fMETRETES SIGNgUSICAL LEIMMAfNUMERAL SIGNfOBOL SIGNgNE HALF SIGNs ALTERNATE FORMjQUARTER SIGN",
   "gUNKIA SIGNgXIAfPERISPOMENIgHI SYMBOLgI SYMBOLgROSGEGRAMMENIgSILIk AND OXIApPERISPOMENIpVARIA",
   "fQUESTION MARKfREVERSED LUNATE EPSILON SYMBOLgHO SYMBOLjWITH STROKE SYMBOLfSINUSOID SIGNgMALL",
   " DOTTED LUNATE SIGMA SYMBOLlLETTER ALPHAx WITH DASIAzi AND OXIAzr AND YPOGEGRAMMENIznPERISPOM",
   "ENIzy AND YPOGEGRAMMENIznVARIAzs AND YPOGEGRAMMENIznYPOGEGRAMMENIzdMACRONzdOXIAzh AND YPOGEGR",
   "AMMENIzdPERISPOMENIzo AND YPOGEGRAMMENIzeSILIzi AND OXIAzr AND YPOGEGRAMMENIznPERISPOMENIzy A",
   "ND YPOGEGRAMMENIznVARIAzs AND YPOGEGRAMMENIznYPOGEGRAMMENIzdTONOSzdVARIAzi AND YPOGEGRAMMENIz",
   "eRACHYzdYPOGEGRAMMENItRCHAIC KOPPAzaSAMPIsBETAsCHIsDELTAtIGAMMAsEPSILONz WITH DASIAzk AND OXI",
   "AzpVARIAzfOXIAzfPSILIzk AND OXIAzpVARIAzfTONOSzfVARIAtTAv WITH DASIAzg AND OXIAzp AND YPOGEGR",
   "AMMENIzlPERISPOMENIzw AND YPOGEGRAMMENIzlVARIAzq AND YPOGEGRAMMENIzlYPOGEGRAMMENIzbOXIAzf AND",
   " YPOGEGRAMMENIzbPERISPOMENIzm AND YPOGEGRAMMENIzcSILIzg AND OXIAzp AND YPOGEGRAMMENIzlPERISPO",
   "MENIzw AND YPOGEGRAMMENIzlVARIAzq AND YPOGEGRAMMENIzlYPOGEGRAMMENIzbTONOSzbVARIAzg AND YPOGEG",
   "RAMMENIzbYPOGEGRAMMENIsFINAL SIGMAsGAMMAsHETAsIOTAw WITH DASIAzh AND OXIAzmPERISPOMENIzmVARIA",
   "zdIALYTIKAzl AND OXIAzqPERISPOMENIzqTONOSzqVARIAzcMACRONzcOXIAzcPERISPOMENIzdSILIzh AND OXIAz",
   "mPERISPOMENIzmVARIAzcTONOSzcVARIAzdRACHYsKAPPAtOPPAsLAMDAsMUsNUsOMEGAx WITH DASIAzi AND OXIAz",
   "r AND YPOGEGRAMMENIznPERISPOMENIzy AND YPOGEGRAMMENIznVARIAzs AND YPOGEGRAMMENIznYPOGEGRAMMEN",
   "IzdOXIAzh AND YPOGEGRAMMENIzdPERISPOMENIzo AND YPOGEGRAMMENIzeSILIzi AND OXIAzr AND YPOGEGRAM",
   "MENIznPERISPOMENIzy AND YPOGEGRAMMENIznVARIAzs AND YPOGEGRAMMENIznYPOGEGRAMMENIzdTONOSzdVARIA",
   "zi AND YPOGEGRAMMENIzdYPOGEGRAMMENIuICRONz WITH DASIAzk AND OXIAzpVARIAzfOXIAzfPSILIzk AND OX",
   "IAzpVARIAzfTONOSzfVARIAsPAMPHYLIAN DIGAMMAtHItItSIsRHOv WITH DASIAzbPSILIsSAMPIuNtHOtIGMAtTIG",
   "MAsTAUtHETAsUPSILONz WITH DASIAzk AND OXIAzpPERISPOMENIzpVARIAzgIALYTIKAzo AND OXIAztPERISPOM",
   "ENIztTONOSztVARIAzfMACRONzfOXIAzfPERISPOMENIzgSILIzk AND OXIAzpPERISPOMENIzpVARIAzfTONOSzfVAR",
   "IAzgRACHYsXIsZETAlREVERSED DOTTED LUNATE SIGMA SYMBOLuLUNATE SIGMA SYMBOLgUBSCRIPT SMALL LETT",
   "ER BETAzcCHIzcGAMMAzcPHIzcRHOgYMBOL TAU RHOfTALENT SIGNgHETA SYMBOLhREE OBOLS SIGNlQUARTERS S",
   "IGNgONOSgRYBLION BASE SIGNgWO OBOLS SIGNjTHIRDS SIGNfUPSILON WITH ACUTE AND HOOK SYMBOLsDIAER",
   "ESIS AND HOOK SYMBOLsHOOK SYMBOLfVARIAgOCAL NOTATION SYMBOL-1zc0zc1zc2zc3zc4zc5zc6zc7zc8zc9zb",
   "2zc0zc1zc2zc3zc4zb3zb4zb5zc0zc1zc2zc3zc4zb6zb7zb8zb9fXESTES SIGNfYEAR SIGNgPOGEGRAMMENIfZERO ",
   "SIGNdN APPLEfBOOKfHEARTfSALADbIMACING FACEcNNING CAT FACE WITH SMILING EYESiFACEm WITH ONE LA",
   "RGE AND ONE SMALL EYEsSMILING EYEStTAR EYESbOUP MARKfSEPARATORcWING HEARTaSaUARANI SIGNdDSMAN",
   "bIDE DOGcTARbJARATI ABBREVIATION SIGNiDIGIT EIGHToFIVEpOURoNINEoONEoSEVENpIXoTHREEpWOoZEROiLE",
   "TTER AqAqIqUpBAqHApCAqHApDAqDArHAqHApEpGAqHApHApIqIpJAqHApKAqHApLAqLApMApNAqGAqNAqYApOpPAqHAp",
   "RApSAqHAqSApTAqHAqTArHApUqUpVAqOCALIC LyLxRyRpYApZHAiOMiRUPEE SIGNiSIGN ANUSVARAoVAGRAHAnCAND",
   "RABINDUoIRCLE NUKTA ABOVEnMADDAHnNUKTAnSHADDAoUKUNnTHREE-DOT NUKTA ABOVEoWO-CIRCLE NUKTA ABOV",
   "EnVIRAMApSARGAiVOWEL CANDRA EvOoSIGN AAuIuUtCANDRA EzaOtEtIuItOtUuUtVOCALIC LzcLzbRzcRbNJALA ",
   "GONDI DIGIT EIGHTtFIVEuOURtNINEtONEtSEVENuIXtTHREEuWOtZEROnLETTER AvAvIvUuBAvHAuCAvHAuDAvDAwH",
   "AvHAuEEuGAvHAuHAuIvIuJAvHAuKAvHAuLAvLAuMAuNAvGAuOOuPAvHAuRAuSAuTAvHAvTAwHAuUvUuVAuYAnOMnSIGN ",
   "ANUSVARAsVISARGAnVIRAMAoOWEL SIGN AAzIzUyEEyIzIyOOyUzUbRMUKHI ABBREVIATION SIGNjDDAKiDIGIT EI",
   "GHToFIVEpOURoNINEoONEoSEVENpIXoTHREEpWOoZEROiEK ONKARiIRIiLETTER AqAqIqUpBAqHApCAqHApDAqDArHA",
   "qHApEEpFApGAqHArHApHApIqIpJAqHApKAqHArHApLAqLApMApNAqGAqNAqYApOOpPAqHApRAqRApSAqHApTAqHAqTArH",
   "ApUqUpVApYApZAiSIGN ADAK BINDInBINDInNUKTAnUDAATnVIRAMApSARGAnYAKASHiTIPPIiURAiVOWEL SIGN AAu",
   "IuUtEEtIuItOOtUuU"]

end Gloss.Text.CharName
