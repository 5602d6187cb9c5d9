/-! The names of characters that begin with a letter from H to K, as pages. -/

namespace Gloss.Text.CharName

/-- The page of the letter H. -/
def pageH : List String :=
  ["HADESbIR SPACEdCUTbLFWIDTH BLACK SQUAREjDOWNWARDS ARROWjFORMS LIGHT VERTICALjHANGUL FILLERqLE",
   "TTER AyExCHIEUCHyIEUCxEyOyUxHIEUHxIyEUNGxKHIEUKHyIYEOKzd-SIOSxMIEUMxNIEUNzc-CIEUCzdHIEUHxOyEx",
   "PHIEUPHyIEUPzc-SIOSxRIEULzc-HIEUHzdKIYEOKzdMIEUMzdPHIEUPHzeIEUPzdSIOSzdTHIEUTHxSIOSySANGCIEUC",
   "zcKIYEOKzcPIEUPzcSIOSzcTIKEUTxTHIEUTHyIKEUTxUxWAzEyEzOyIxYAzEyEzOyIyOyUjIDEOGRAPHIC COMMAvFUL",
   "L STOPjKATAKANA LETTER AzEzHAzaEzaIzaOzaUzIzKAzaEzaIzaOzaUzMAzaEzaIzaOzaUzNzaAzaEzaIzaOzaUzOz",
   "RAzaEzaIzaOzaUzSAzaEzaIzaMALL AzfEzfIzfOzfTUzfUzfYAzgOzgUzaOzaUzTAzaEzaIzaOzaUzUzWAzaOzYAzaOz",
   "aUsMIDDLE DOTsSEMI-VOICED SOUND MARKsVOICED SOUND MARKr-HIRAGANA PROLONGED SOUND MARKjLEFT CO",
   "RNER BRACKETnWARDS ARROWjRIGHT CORNER BRACKEToWARDS ARROWjUPWARDS ARROWjWHITE CIRCLEbMBURGERc",
   "MERf AND PICKkSICKLEkWRENCHcSAdTER FACEbND WITH INDEX AND MIDDLE FINGERS CROSSEDpFINGER AND T",
   "HUMB CROSSEDdBAGfLLdSHAKEcGUL CHOSEONG CEONGCHIEUMCHIEUCHzbIEUCzaSIOSzbSANGCIEUCzfSIOSqHIEUCH",
   "w-HIEUHxKHIEUKHsTUEUMCHIEUCHyIEUCxSIOSySANGCIEUCzcSIOSqIEUCu-IEUNGpFILLERpHIEUHu-SIOSpIEUNGu-",
   "CHIEUCHwIEUCvHIEUHvKIYEOKvMIEUMvPANSIOSwHIEUPHwIEUPvRIEULvSIOSvTHIEUTHwIKEUTpKAPYEOUNMIEUMxPH",
   "IEUPHyIEUPxRIEULxSSANGPIEUPqHIEUKHqIYEOKv-TIKEUTpMIEUMu-KIYEOKvPIEUPvSIOSvTIKEUTpNIEUNu-CIEUC",
   "vHIEUHvKIYEOKvPIEUPvSIOSvTIKEUTpPANSIOSqHIEUPHw-HIEUHxPIEUPqIEUPu-CHIEUCHwIEUCvHIEUHvKHIEUKHw",
   "IYEOKvNIEUNvPHIEUPHvSIOSz-CIEUCzaKIYEOKzaPIEUPzaTHIEUTHzbIKEUTwSANGSIOSvTHIEUTHwIKEUTpRIEULu-",
   "CIEUCvHIEUHvKAPYEOUNPIEUPwHIEUKHwIYEOKvMIEUMvNIEUNvPIEUPvSIOSwSANGKIYEOKzaPIEUPzaTIKEUTvTIKEU",
   "TpSIOSt-CHIEUCHvIEUCuHIEUHuIEUNGuKHIEUKHvIYEOKuMIEUMuNIEUNuPHIEUPHvIEUPz-KIYEOKuRIEULuSSANGSI",
   "OSuTHIEUTHvIKEUTqSANGCIEUCz-HIEUHuHIEUHuIEUNGuKIYEOKuNIEUNuPIEUPuRIEULuSIOSy-PIEUPuTHIEUTHvIK",
   "EUTuYEORINHIEUHpTHIEUTHqIKEUTv-CIEUCwKIYEOKwMIEUMwPIEUPwRIEULwSIOSpYEORINHIEUHrSIEUNGgDOUBLE ",
   "DOT TONE MARKgFILLERgJONGSEONG CHIEUCHrIEUCv-PIEUPwSSANGPIEUPqHIEUHv-MIEUMwNIEUNwPIEUPwRIEULq",
   "IEUNGv-KHIEUKHxIYEOKwSSANGKIYEOKqKAPYEOUNMIEUMyPHIEUPHzIEUPyRIEULrHIEUKHrIYEOKw-CHIEUCHxHIEUH",
   "xKHIEUKHxNIEUNxPIEUPxRIEULxSIOSzb-KIYEOKqMIEUMv-CHIEUCHxIEUCwHIEUHwKIYEOKwNIEUNwPANSIOSxIEUPz",
   "b-SIOSwRIEULwSIOSxSANGNIEUNzbSIOSqNIEUNv-CHIEUCHxIEUCwHIEUHwKIYEOKwPANSIOSwRIEULwSIOSwTHIEUTH",
   "xIKEUTqPANSIOSx-KAPYEOUNPIEUPyPIEUPrHIEUPHx-PIEUPySIOSyTHIEUTHrIEUPv-CHIEUCHxIEUCwHIEUHwMIEUM",
   "wPHIEUPHwRIEULzb-PHIEUPHwSIOSza-TIKEUTwTIKEUTqRIEULv-HIEUHwKAPYEOUNPIEUPxHIEUKHxIYEOKzc-HIEUH",
   "zdSIOSwMIEUMzb-HIEUHzcKIYEOKzcSIOSwNIEUNwPANSIOSxHIEUPHxIEUPzb-HIEUHzcPHIEUPHzcSIOSzcTIKEUTwS",
   "IOSxSANGKIYEOKzbSIOSwTHIEUTHxIKEUTzc-HIEUHwYEORINHIEUHzh-HIEUHySIEUNGqSIOSu-CHIEUCHwIEUCvHIEU",
   "HvKAPYEOUNPIEUPwIYEOKvMIEUMvPANSIOSwIEUPvRIEULvTHIEUTHwIKEUTrSANGCIEUCvIEUNGvKIYEOKvMIEUMvNIE",
   "UNvPIEUPvRIEULza-KHIEUKHvSIOSz-KIYEOKzaTIKEUTvTIKEUTzb-PIEUPvYESIEUNGqTHIEUTHrIKEUTw-CHIEUCHy",
   "IEUCxKIYEOKxPIEUPxRIEULxSIOSzb-KIYEOKxTHIEUTHqYEORINHIEUHsSIEUNGy-HIEUHzKHIEUKHzaIYEOKzMIEUMz",
   "PANSIOSzSIOSzaSANGKIYEOKhUNGSEONG Ar-EUsOsUrErRAEAv-AwExOwIwUqErOs-EUtOtUrUs-AtEuOuUtOtUqFILL",
   "ERqIr-AtRAEAsEUsIsOt-IsUsYAu-OuEtEuOtOtUqOr-EtOsOt-IsUsYAuEtEuOrEqSSANGARAEAqUr-AtEsEO-EUsI-I",
   "sUsYEuOqWAsErEsOrIqYAs-OtUtYOsErEsOt-OuUuYArIs-UrOs-AuEtEOtItOtYAvEuEOrUs-AuEtEuOtItOtUtYEvOg",
   "LETTER AoEoRAEAsEnCHIEUCHoIEUCnEoOoUnHIEUHnIoEUNGnKAPYEOUNMIEUMvPHIEUPHwIEUPvSSANGPIEUPoHIEUK",
   "HoIYEOKt-SIOSnMIEUMs-PANSIOSuIEUPtSIOSnNIEUNs-CIEUCtHIEUHtPANSIOStSIOStTIKEUTnOoEnPANSIOSoHIE",
   "UPHoIEUPs-CIEUCtKIYEOKtSIOSx-KIYEOKyTIKEUTtTHIEUTHuIKEUTnRIEULs-HIEUHtKIYEOKz-SIOStMIEUMtPANS",
   "IOSuHIEUPHuIEUPy-SIOStSIOStTHIEUTHuIKEUTtYEORINHIEUHnSIOSr-CIEUCsKIYEOKsNIEUNsPIEUPsTIKEUToSA",
   "NGCIEUCsHIEUHsIEUNGsKIYEOKsNIEUNsPIEUPsSIOSsTIKEUTnTHIEUTHoIKEUTnUnWApEoEpOoInYApEoEpOqRINHIE",
   "UHpSIEUNGv-PANSIOSwSIOSoIoOp-IqYAsEoUp-IqYEsOgSINGLE DOT TONE MARKdZHOU NUMERAL EIGHTqFIVErOU",
   "RqNINEqONEqSEVENrIXqTENrHIRTYsREErWENTYsOcIFI ROHINGYA DIGIT EIGHTvFIVEwOURvNINEvONEvSEVENwIX",
   "vTHREEwWOvZEROpLETTER AwBAwCAwDAxDAwFAwGAwHAwJAwKAxHAxINNA WAzcYAwLAwMAwNAxGAxYAwPAwRAxRAwSAx",
   "HAwTAxTAwVAwWAwYAwZApMARK NA KHONNAuSAKINpSIGN HARBAHAYuTAHALAwNAwSSIpVOWEL AvEvIvOvUcUNOO LE",
   "TTER AoBAoDAoGAoHAoIoKAoLAoMAoNApGAoPAoRAoSAoTAoUoWAoYAhSIGN PAMUDPODhVOWEL SIGN IsUbPPY PERS",
   "ON RAISING ONE HANDbRD DISKbTCHING CHICKcRAN LETTER ALEPHoYNnBETHnDALETH-RESHnGIMELnHEpTHnKAP",
   "HnLAMEDHnMEMnNUNnPEnQOPHnSADHEpMEKHoHINnTAWoETHnWAWnYODHnZAYNgNUMBER FIVEnONEq HUNDREDnTENoWE",
   "NTYaEADPHONEdSTONEi GRAVEYARD SYMBOLcR-NO-EVIL MONKEYdT DECORATIONfHANDSfWITH ARROWkRIBBONkTI",
   "P ON THE LEFTcVY AMPERSAND ORNAMENTgRROW SHAFT WIDTH ONEza HALFzbTHIRDxTWO THIRDSgSTERISKfBAL",
   "LOT XgLACK CURVED DOWNWARDS AND RIGHTWARDS ARROWsUPWARDS AND RIGHTWARDS ARROWlHEARTk-FEATHERE",
   "D NORTH EAST ARROWvRIGHTWARDS ARROWvSOUTH EAST ARROWfCHECK MARKiVRON SNOWFLAKEgIRCLEl WITH CI",
   "RCLE INSIDErSTROKE AND TWO DOTS ABOVElD SALTIREgONCAVE-POINTED BLACK RIGHTWARDS ARROWfDASHED ",
   "TRIANGLE-HEADED RIGHTWARDS ARROWgIVISION SIGNgOLLAR SIGNhUBLE COMMA QUOTATION MARK ORNAMENTmT",
   "URNED COMMA QUOTATION MARK ORNAMENThWNWARDS ARROW WITH EQUILATERAL ARROWHEADzaLARGE EQUILATER",
   "AL ARROWHEADfEIGHT POINTED BLACK STARtPINWHEEL STARtRECTILINEAR BLACK STARlSPOKED ASTERISKlTE",
   "ARDROP-SPOKED PROPELLER ASTERISKgQUALS SIGNgXCLAMATION MARK ORNAMENTwSYMBOLfFIVE POINTED BLAC",
   "K STARkSPOKED ASTERISKgOUR BALLOON-SPOKED ASTERISKfGREEK CROSSfHEART EXCLAMATION MARK ORNAMEN",
   "TgORIZONTAL FILLfINTERROBANG ORNAMENTfLARGE CIRCLEhTIN CROSSgEFT-POINTING ANGLE BRACKET ORNAM",
   "ENTzQUOTATION MARK ORNAMENTjWARDS ARROW WITH EQUILATERAL ARROWHEADzaLARGE EQUILATERAL ARROWHE",
   "ADgIGATURE OPEN ET ORNAMENTgOW DOUBLE COMMA QUOTATION MARK ORNAMENTjSINGLE COMMA QUOTATION MA",
   "RK ORNAMENTiER RIGHT-SHADOWED WHITE RIGHTWARDS ARROWfMINUS SIGNgULTIPLICATION XfNORTH EAST AR",
   "ROWqPOINTING BUDzVINE LEAFlWEST POINTING BUDzVINE LEAFfOPEN CENTRE CROSSgUTLINED BLACK STARgV",
   "AL WITH OVAL INSIDEfPLUS SIGNfRIGHT-POINTING ANGLE BRACKET ORNAMENTzaQUOTATION MARK ORNAMENTk",
   "WARDS ARROWv WITH EQUILATERAL ARROWHEADzbLARGE EQUILATERAL ARROWHEADgOUND-TIPPED RIGHTWARDS A",
   "RROWfSALTIREhNS-SERIF INTERROBANG ORNAMENTgCRIPT LIGATURE ET ORNAMENTgINGLE COMMA QUOTATION M",
   "ARK ORNAMENTmTURNED COMMA QUOTATION MARK ORNAMENThX POINTED BLACK STARjSPOKED ASTERISKgOUTH E",
   "AST ARROWqPOINTING BUDzVINE LEAFlWEST POINTING BUDzVINE LEAFgPARKLEfTEARDROP-SHANKED RIGHTWAR",
   "DS ARROWpPOKED ASTERISKvPINWHEEL ASTERISKgRIANGLE-HEADED RIGHTWARDS ARROWgWELVE POINTED BLACK",
   " STARuPINWHEEL STARfUPPER RIGHT-SHADOWED WHITE RIGHTWARDS ARROWhWARDS ARROW WITH EQUILATERAL ",
   "ARROWHEADyLARGE EQUILATERAL ARROWHEADfVERTICAL BARfWEDGE-TAILED RIGHTWARDS ARROWgHITE CIRCLEl",
   "DOWN-POINTING TRIANGLElSQUAREgIDE-HEADED RIGHTWARDS ARROWbBREW ACCENT ATNAH HAFUKHnDARGAoEHIn",
   "ETNAHTAnGERESHt MUQDAMqSHAYIMnILUYnMAHAPAKHoERKHAt KEFULAoUNAHnOLEnPASHTApZERnQADMApRNEY PARA",
   "nREVIAnSEGOLoHALSHELETnTELISHA GEDOLAvQETANApVIRoIPEHAnYERAH BEN YOMOpTIVnZAQEF GADOLtQATANpR",
   "QAoINORgLETTER ALEFr WITH MAPIQxPATAHxQAMATSpTERNATIVE AYINzPLUS SIGNoYINnBETq WITH DAGESHwRA",
   "FEnDALETs WITH DAGESHnFINAL KAFw WITH DAGESHtMEMtNUNtPEv WITH DAGESHtTSADInGIMELs WITH DAGESH",
   "nHEp WITH MAPIQpTnKAFq WITH DAGESHwRAFEnLAMEDs WITH DAGESHnMEMq WITH DAGESHnNUNq WITH DAGESHn",
   "PEp WITH DAGESHvRAFEnQOFq WITH DAGESHnRESHr WITH DAGESHnSAMEKHt WITH DAGESHoHINr WITH DAGESHz",
   "d AND SHIN DOTzjIN DOTxSHIN DOTyIN DOTnTAVq WITH DAGESHoETq WITH DAGESHoSADIs WITH DAGESHnVAV",
   "q WITH DAGESHwHOLAMnWIDE ALEFsDALETsFINAL MEMsHEsKAFsLAMEDsRESHsTAVnYODq WITH DAGESHwHIRIQnZA",
   "YINs WITH DAGESHhIGATURE ALEF LAMEDpYIDDISH DOUBLE VAVzeYODxVAV YODxYOD YOD PATAHgMARK LOWER ",
   "DOTlMASORA CIRCLElUPPER DOTgPOINT DAGESH OR MAPIQmHATAF PATAHsQAMATSsSEGOLnIRIQnOLAMr HASER F",
   "OR VAVmJUDEO-SPANISH VARIKAmMETEGmPATAHmQAMATSs QATANnUBUTSmRAFEmSEGOLnHEVAoIN DOTnIN DOTmTSE",
   "REhUNCTUATION GERESHvSHAYIMsMAQAFsNUN HAFUKHAsPASEQsSOF PASUQgYOD TRIANGLEbDGEHOGbLICOPTERcLS",
   "CHREIBER PAUSE SYMBOLcM SYMBOLdET WITH WHITE CROSSbNTAIGANA LETTER A-1t2t3tWOrE-1t2t3t4t5t6rH",
   "A-1v0v1u2u3u4u5u6u7u8u9sE-1u2u3u4u5u6u7sI-1u2u3u4u5u6u7sO-1u2u3u4u5u6u7u8sU-1u2u3rI-1t2t3t4rK",
   "A-1v0v1u2u3u4u5u6u7u8u9uKEsE-1u2u3u4u5u6sI-1u2u3u4u5u6u7u8sO-1u2u3uKIsU-1u2u3u4u5u6u7rMA-1u2u",
   "3u4u5u6u7sE-1u2uMAsI-1u2u3u4u5u6u7sO-1u2u3u4u5u6sU-1u2u3u4rN-MU-MO-1z2sA-1u2u3u4u5u6u7u8u9sE-",
   "1u2u3u4u5u6uKOsI-1u2u3u4u5u6u7uTEsO-1u2u3u4u5sU-1u2u3rO-1t2t3rRA-1u2u3u4sE-1u2u3u4sI-1u2u3u4u",
   "5u6u7sO-1u2u3u4u5u6sU-1u2u3u4u5u6rSA-1u2u3u4u5u6u7u8sE-1u2u3u4u5sI-1u2u3u4u5u6sO-1u2u3u4u5u6u",
   "7sU-1u2u3u4u5u6u7u8rTA-1u2u3u4sE-1u2u3u4u5u6u7u8u9sI-1u2u3u4u5u6u7sO-1u2u3u4u5u6uRAsU-1u2u3u4",
   "uTOrU-1t2t3t4t5rWA-1u2u3u4u5sE-1u2u3u4sI-1u2u3u4u5sO-1u2u3u4u5u6u7rYA-1u2u3u4u5uYOsO-1u2u3u4u",
   "5u6sU-1u2u3u4bRBcMITIAN CONJUGATE MATRIXbXAGRAM FOR ABUNDANCEnFTER COMPLETIONnPPROACHmBEFORE ",
   "COMPLETIONnITING THROUGHnREAKTHROUGHmCOMING TO MEEToNFLICTpTEMPLATIONmDARKENING OF THE LIGHTn",
   "ECREASEoLIVERANCEoVELOPMENTnIFFICULTY AT THE BEGINNINGoSPERSIONnURATIONmENTHUSIASMmFELLOWSHIP",
   "nOLLOWINGmGATHERING TOGETHERnRACEoEAT POSSESSIONuWERtREPONDERANCEsTAMINGmHOLDING TOGETHERmINC",
   "REASEoFLUENCEoNER TRUTHpOCENCEmLIMITATIONmMODESTYoUTH CORNERSmOBSTRUCTIONnPPOSITIONpRESSIONmP",
   "EACEnROGRESSnUSHING UPWARDmRETREATpURNoVOLUTIONmSMALL PREPONDERANCEsTAMINGnPLITTING APARTnTAN",
   "DSTILLmTHE ABYSMAL WATERrRMYsOUSING THUNDERqCAULDRONrLINGING FIRErREATIVE HEAVENqFAMILYqGENTL",
   "E WINDqJOYOUS LAKEqKEEPING STILL MOUNTAINqMARRYING MAIDENqRECEPTIVE EARTHqWANDERERrELLnREADIN",
   "GmWAITINGnORK ON THE DECAYEDmYOUTHFUL FOLLYaIBISCUSbGH BRIGHTNESS SYMBOLeOCTET PRESETeVOLTAGE",
   " SIGNd-HEELED SHOEeSPEED TRAINp WITH BULLET NOSEbKING BOOTbNDU TEMPLEbPPOPOTAMUSbRAGANA DIGRA",
   "PH YORIiITERATION MARKiLETTER AqRCHAIC WUxYEpBAqEqIqOqUpDAqEqIqOqUpEpGAqEqIqOqUpHAqEqIqOqUpIp",
   "KAqEqIqOqUpMAqEqIqOqUpNqAqEqIqOqUpOpPAqEqIqOqUpRAqEqIqOqUpSAqEqIqMALL AvEvIvKAwEvOvTUvUvWAwEw",
   "IwOvYAwOwUqOqUpTAqEqIqOqUpUpVUpWAqEqIqOpYAqOqUpZAqEqIqOqUiVOICED ITERATION MARKbSTORIC SITEaO",
   "CHObLEcLOW QUILT SQUARE ORNAMENTzb IN BLACK SQUAREbMOTHETICbNEY POTeBEEbOKbPbRIZONTAL BARlLAC",
   "K HEXAGONqOCTAGONkELLIPSISkLINE EXTENSIONkMALE WITH STROKE SIGNkONE EIGHTH BLOCK-1358zb2zb3zb",
   "4zb5zb6zb7kSCAN LINE-1u3u7u9kTAB KEYnULATIONu SETvWITH JUSTIFICATIONlRAFFIC LIGHTcSEe FACEfRA",
   "CINGbSPITALbT BEVERAGEdDOGdPEPPERdSPRINGScELbURGLASSi WITH FLOWING SANDcSEe BUILDINGnSfWITH G",
   "ARDENaRYVNIA SIGNaTbJbSaUGGING FACEbNDRED POINTS SYMBOLbSHED FACEbTaYGIEAbPHENf BULLETgWITH D",
   "IAERESISf-MINUSfATION POINTcODIASTOLEbSTERESIS SYMBOL"]

/-- The page of the letter I. -/
def pageI : List String :=
  ["I LOVE YOU HAND SIGNaCE CREAMeUBEdHOCKEY STICK AND PUCKdSKATEaDENTICAL TOl AND SLANTED PARALL",
   "ELjWITH DOT ABOVEfFICATION CARDcOGRAPHIC ANNOTATION BOTTOM MARKwEARTH MARKwFIRST MARKxOUR MAR",
   "KzaTH MARKwHEAVEN MARKwLINKING MARKwMAN MARKxIDDLE MARKwONE MARKwREVERSE MARKwSECOND MARKwTHI",
   "RD MARKyREE MARKxOP MARKxWO MARKlCLOSING MARKmOMMAlDEPARTING TONE MARKnSCRIPTION CHARACTER AB",
   "OVE TO BELOWzqMIDDLE AND BELOWzhFULL SURROUNDzhLEFT TO MIDDLE AND RIGHTzpRIGHTzhOVERLAIDzhSUR",
   "ROUND FROM ABOVEzvBELOWzvLEFTzwOWER LEFTzvUPPER LEFTzzbRIGHTlENTERING TONE MARKlFULL STOPlHAL",
   "F FILL SPACElITERATION MARKlLEVEL TONE MARKlNUMBER ZEROlRISING TONE MARKlSPACElTALLY MARK FIV",
   "ExOURwONEwTHREExWOmELEGRAPH LINE FEED SEPARATOR SYMBOLvSYMBOL FOR APRILzhUGUSTzgDAY EIGHTzpEE",
   "NzlLEVENzkFIFTEENzmVEzlOURzoTEENzkNINEzoTEENzkONEzkSEVENzpTEENzlIXznTEENzkTENzlHIRTEENzpYzq-O",
   "NEzmREEzlWELVEznNTYzq-EIGHTzrFIVEzsOURzrNINEzrONEzrSEVENzsIXzrTHREEzsWOzmOzhECEMBERzgFEBRUARY",
   "zgHOUR EIGHTzqEENzmLEVENzlFIFTEENznVEzmOURzpTEENzlNINEzpTEENzlONEzlSEVENzqTEENzmIXzoTEENzlTEN",
   "zmHIRTEENznREEzmWELVEzoNTYzr-FOURzsONEzsTHREEztWOznOzlZEROzgJANUARYzhULYziNEzgMARCHziYzgNOVEM",
   "BERzgOCTOBERzgSEPTEMBERlVARIATION INDICATORaMAGE OFh OR APPROXIMATELY EQUAL TObPcERIAL ARAMAI",
   "C LETTER ALEPHyYINxBETHxDALETHxGIMELxHEzTHxKAPHxLAMEDHxMEMxNUNxPExQOPHxRESHxSADHEzMEKHyHINxTA",
   "WyETHxWAWxYODHxZAYINqNUMBER ONEza HUNDREDzbTHOUSANDxTENza THOUSANDyHREEyWENTYzOqSECTION SIGNa",
   "NBOX TRAYbCOMING ENVELOPEePLETE INFINITYcREASE FONT SIZE SYMBOLhS ASeMENTbDcEXe POINTING AT T",
   "HE VIEWERcIAN RUPEE SIGNdC SIYAQ ALTERNATE LAKH MARKlFRACTION ONE HALFyQUARTERuTHREE QUARTERS",
   "lLAKH MARKlNUMBER ALTERNATE ONEzcTEN THOUSANDzdWOsEIGHTx HUNDREDyTHOUSANDxYy THOUSANDsFIFTYx ",
   "THOUSANDuVEw HUNDREDxTHOUSANDtORTYx THOUSANDuURw HUNDREDxTHOUSANDsKARORxANsLAKHwANsNINEw HUND",
   "REDxTHOUSANDwTYy THOUSANDsONEv HUNDREDwTHOUSANDsPREFIXED EIGHTzbFIVEzcOURzbNINEzbONEzbSEVENzc",
   "IXzbTHREEzcWOsSEVENx HUNDREDyTHOUSANDxTYz THOUSANDtIXv HUNDREDwTHOUSANDvTYx THOUSANDsTENv THO",
   "USANDtHIRTYy THOUSANDuREEx HUNDREDyTHOUSANDtWENTYy THOUSANDuOv HUNDREDwTHOUSANDlPLACEHOLDERlR",
   "UPEE MARKbFINITYh NEGATED WITH VERTICAL BARcORMATION DESK PERSONlSEPARATOR FOURvONEvTHREEwWOm",
   "OURCEbHIBIT ARABIC FORM SHAPINGhSYMMETRIC SWAPPINGbPUT SYMBOL FOR LATIN CAPITAL LETTERSwLETTE",
   "RSwSMALL LETTERSqNUMBERSqSYMBOLSbSCRIPTIONAL PAHLAVI LETTER ALEPHzcBETHzcDALETHzcGIMELzcHEzeT",
   "HzcKAPHzcLAMEDHzcMEM-QOPHzcNUNzcPEzcSADHEzeMEKHzdHINzcTAWzdETHzcWAW-AYIN-RESHzcYODHzcZAYINvNU",
   "MBER FOURzcONEzf HUNDREDzgTHOUSANDzcTENzdHREEzdWENTYzeOpRTHIAN LETTER ALEPHzeYINzdBETHzdDALET",
   "HzdGIMELzdHEzfTHzdKAPHzdLAMEDHzdMEMzdNUNzdPEzdQOPHzdRESHzdSADHEzfMEKHzeHINzdTAWzeETHzdWAWzdYO",
   "DHzdZAYINwNUMBER FOURzdONEzg HUNDREDzhTHOUSANDzdTENzeHREEzeWENTYzfOcERTION SYMBOLbTEGRALh ARO",
   "UND A POINT OPERATORjVERAGE WITH SLASHiEXTENSIONiWITH DOUBLE STROKEnINTERSECTIONnLEFTWARDS AR",
   "ROW WITH HOOKnOVERBARnTIMES SIGNnUNDERBARpIONdRCALATEeIOR PRODUCTeLINEAR ANNOTATION ANCHORwSE",
   "PARATORwTERMINATORfOCKED FEMALE AND MALE SIGNeROBANGeSECTIONl ABOVE BAR ABOVE UNIONsUNIONmBES",
   "IDE AND JOINED WITH INTERSECTIONmWITH DOTrLOGICAL ANDrOVERBARbVERSE BULLEThCHECK MARKmER BOAR",
   "D FILLhDOWNWARDS ARROW WITH TIP LEFTWARDShMEDIUM SHADEhWHITE CIRCLEeTED EXCLAMATION MARKiINTE",
   "RROBANGiLAZY SjOW KAVYKAs WITH KAVYKA ABOVEiOHM SIGNiPENTAGRAMiQUESTION MARKiUNDERTIEcISIBLE ",
   "PLUSjSEPARATORjTIMESaZAKAYA LANTERN"]

/-- The page of the letter J. -/
def pageJ : List String :=
  ["JACK-O-LANTERNbPANESE BANK SYMBOLiCASTLEiDOLLSiGOBLINiINDUSTRIAL STANDARD SYMBOLiOGREiPOST OF",
   "FICEiSYMBOL FOR BEGINNERbRbVANESE CONSONANT SIGN CAKRAxKERETxPENGKALiDIGIT EIGHToFIVEpOURoNIN",
   "EoONEoSEVENpIXoTHREEpWOoZEROiLEFT RERENGGANkTTER AqIpBAr MURDApCAr MURDApDAr MAHAPRANAqDAs MA",
   "HAPRANApEpGAr MURDApHApIq KAWIqIpJAr MAHAPRANApKAr MURDAsSASAKpLApMApNAr MURDAqGAs LELETy RAS",
   "WADIqYAs MURDApOpPAr CEREKsMURDApRAr AGUNGpSAr MAHAPRANAtURDApTAr MURDAqTAs MAHAPRANApUpWApYA",
   "iPADA ADEGr ADEGoNDAPnISEN-ISENnLINGSAoUHURpNGSInMADYAnPANGKAToISELEHnTIRTA TUMETESnWINDUkNGK",
   "ONmRANGKEPiRIGHT RERENGGANiSIGN CECAKs TELUnLAYARnPANYANGGAnWIGNYANiTURNED PADA PISELEHiVOWEL",
   " SIGN DIRGA MUREtPEPETtSUKUx MENDUTtTALINGvRUNGuOLONGtWULUx MELIKaEANSaIGSAW PUZZLE PIECEaOIN",
   "bYSTICKaUGGLINGbNObPITER"]

/-- The page of the letter K. -/
def pageK : List String :=
  ["KAABAbITHI ABBREVIATION SIGNgDANDAhOUBLE DANDAnSECTION MARKgENUMERATION SIGNgLETTER AoAoIoUnB",
   "AoHAnCAoHAnDAoDApDHApHAoHAnEnGAoHAnHAnIoInJAoHAnKAoHAnLAnMAnNAoGAoNAoYAnOnPAoHAnRAoHAnSAoHAoS",
   "AnTAoHAoTApHAnUoUnVAnYAgNUMBER SIGNr ABOVEgSECTION MARKhIGN ANUSVARAlCANDRABINDUlNUKTAlVIRAMA",
   "nSARGAgVOWEL SIGN AAsIsUrErIsIrOrUsUrVOCALIC RbNGAROOdXI RADICAL AGAINpNDpRRIVErOWpXEoBADGERq",
   "MBOOpEANpIGqRDqTTERpLACKqOODqUEpOATqDYqLT OF CLOTHqNEqWpRANCHqISTLEqUSHoCARTqULDRONqVEpHILDpI",
   "TYpLANrWqIFFqOTHESpOLORqMPAREqRPSEqVERqWoDEATHqERpIPPERqSHrTINGUISHqVINATIONpO NOTqGqORqTrTED",
   " CLIFFvTENTqUBLE XqWN BOXpRAGONqUMqYoEARrTHqTpIGHTpMBROIDERYpNCLOSUREqTERpVENsINGpYEoFACEqNGq",
   "THERpEATHERpIELDqGHTqREqSHpLUTEqYpOOTpRAGRANTqOGpURoGATEpHOSTpOq SLOWLYqLDpRAINrSSoHAIRqLBERD",
   "rF TREE TRUNKqNDpEADrRTqMPpIDING ENCLOSUREpOOKqRNrSEoICEpNCHqSECToJADEqRoKNIFEoLACKqMEpEAFrTH",
   "ERqEKqGSpIDqFEqNEpONGs STRIDEoMANpEATqLONpILLETqNISTERpOONqRNINGrTARqUNDsTAINrTHoNETpOSEqToOL",
   "DpNErSELFpPEN BOXqPOSEoPIGpLOWpOWERpRIVATEqOFOUNDoRAINqPqTpEDpICEqGHT OPEN BOXqVERpOOFpUNoSAC",
   "RIFICIAL WINEqLTqYpCHOLARqRIPTpEALqCONDqEqLFpHEEPrLLqOOTrRT TAILED BIRDvHREADpICKNESSqLKpKINp",
   "LASHrVEqICEpMALLpNOUTpOUNDpPEARrECHqIRITqOONqROUTpQUAREpTANDqEAMrPqONErPsPINGpUNpWEEToTABLEqL",
   "LqNNED LEATHERpENpIGERqLEpONGUEqOTHpRACKqEEqIPODpURBANrTLEpWOr HANDSoUSEoVALLEYpILLAGEoWALKs ",
   "ENCLOSUREqTERpEAPONqSTpHEATqITEpINDrEpOMANqRKpRAPqONGoYELLOWcNADA AI LENGTH MARKhDIGIT EIGHTn",
   "FIVEoOURnNINEnONEnSEVENoIXnTHREEoWOnZEROhLENGTH MARKjTTER ApApIpUoBApHAoCApHAoDApDAqHApHAoEpE",
   "oFAoGApHAoHAoIpIoJApHAoKApHAoLApLAqLAoMAoNAqKAARA POLLUpGApNApYAoOpOoPApHAoRApRAoSApHApSAoTAp",
   "HApTAqHAoUpUoVApOCALIC LxLwRxRoYAhSIGN ANUSVARAnVAGRAHAmCANDRABINDUmJIHVAMULIYAmNUKTAmSIDDHAM",
   "nPACING CANDRABINDUmUPADHMANIYAmVIRAMAoSARGAhVOWEL SIGN AAtItUsEtEsItIsOtOsUtUsVOCALIC LzbLza",
   "RzbRbTAKANA DIGRAPH KOTOiITERATION MARKiLETTER AqRCHAIC ExWUxYEyIpBAqEqIqOqUpDAqEqIqOqUpEpGAq",
   "EqIqOqUpHAqEqIqOqUpIpKAqEqIqOqUpMAqEqIrNNAN NASALIZED TONE-1zl2zl3zl4zl5zl7zl8wTONE-2zb3zb4zb",
   "5zb7zb8qOqUpNqAqEqIqOqUpOpPAqEqIqOqUpRAqEqIqOqUpSAqEqIqMALL AvEvHAwEwIwOwUvIvKAwEwUvMUvNwUvOv",
   "RAwEwIwOwUvSIwUvTOwUvUvWAwEwIwOvYAwOwUqOqUpTAqEqIqOqUpUpVAqEqIqOqUpWAqEqIqOpYAqOqUpZAqEqIqOqU",
   "iMIDDLE DOTiVOICED ITERATION MARKh-HIRAGANA DOUBLE HYPHENrPROLONGED SOUND MARKrSEMI-VOICED SO",
   "UND MARKrVOICED SOUND MARKbYAH LI DIGIT EIGHToFIVEpOURoNINEoONEoSEVENpIXoTHREEpWOoZEROiLETTER",
   " ApBApCApDApGApHAqTApIpKAqHApLApMApNAqGAqYApOEqOpPAqHApRApSAqHApTAqHApVApWApYApZAiSIGN CWInSH",
   "YAiTONE CALYAs PLOPHUnPLOPHUiVOWEL EpEoOoUpEaELVIN SIGNbYcBOARDh AND MOUSEcCAP TENaHAROSHTHI ",
   "DIGIT FOURqONEqTHREErWOkFRACTION ONE HALFkLETTER ArBAsHArCAsHArDAsDAtHAsHArGAsHArHArJArKAsHAs",
   "KArLArMArNAsNAsYArPAsHArRArSAsHAsSArTAsHAsTAtHAtTAuHArVAsHArYArZAkNUMBER ONE HUNDREDvTHOUSAND",
   "rTENsWENTYkPUNCTUATION CIRCLExRESCENT BARwDANDAxOTyUBLE DANDAwLINESxOTUSwMANGALAMwSMALL CIRCL",
   "EkSIGN ANUSVARApBAR ABOVEpCAUDApDOT BELOWrUBLE RING BELOWpVISARGAkVIRAMAlOWEL LENGTH MARKqSIG",
   "N EvIvOvUvVOCALIC RbITAN SMALL SCRIPT CHARACTER-18B00zh1zh2zh3zh4zh5zh6zh7zh8zh9zhAzhBzhCzhDz",
   "hEzhFzg10zh1zh2zh3zh4zh5zh6zh7zh8zh9zhAzhBzhCzhDzhEzhFzg20zh1zh2zh3zh4zh5zh6zh7zh8zh9zhAzhBzh",
   "CzhDzhEzhFzg30zh1zh2zh3zh4zh5zh6zh7zh8zh9zhAzhBzhCzhDzhEzhFzg40zh1zh2zh3zh4zh5zh6zh7zh8zh9zhA",
   "zhBzhCzhDzhEzhFzg50zh1zh2zh3zh4zh5zh6zh7zh8zh9zhAzhBzhCzhDzhEzhFzg60zh1zh2zh3zh4zh5zh6zh7zh8z",
   "h9zhAzhBzhCzhDzhEzhFzg70zh1zh2zh3zh4zh5zh6zh7zh8zh9zhAzhBzhCzhDzhEzhFzg80zh1zh2zh3zh4zh5zh6zh",
   "7zh8zh9zhAzhBzhCzhDzhEzhFzg90zh1zh2zh3zh4zh5zh6zh7zh8zh9zhAzhBzhCzhDzhEzhFzgA0zh1zh2zh3zh4zh5",
   "zh6zh7zh8zh9zhAzhBzhCzhDzhEzhFzgB0zh1zh2zh3zh4zh5zh6zh7zh8zh9zhAzhBzhCzhDzhEzhFzgC0zh1zh2zh3z",
   "h4zh5zh6zh7zh8zh9zhAzhBzhCzhDzhEzhFzgD0zh1zh2zh3zh4zh5zh6zh7zh8zh9zhAzhBzhCzhDzhEzhFzgE0zh1zh",
   "2zh3zh4zh5zh6zh7zh8zh9zhAzhBzhCzhDzhEzhFzgF0zh1zh2zh3zh4zh5zh6zh7zh8zh9zhAzhBzhCzhDzhEzhFzfC0",
   "0zh1zh2zh3zh4zh5zh6zh7zh8zh9zhAzhBzhCzhDzhEzhFzg10zh1zh2zh3zh4zh5zh6zh7zh8zh9zhAzhBzhCzhDzhEz",
   "hFzg20zh1zh2zh3zh4zh5zh6zh7zh8zh9zhAzhBzhCzhDzhEzhFzg30zh1zh2zh3zh4zh5zh6zh7zh8zh9zhAzhBzhCzh",
   "DzhEzhFzg40zh1zh2zh3zh4zh5zh6zh7zh8zh9zhAzhBzhCzhDzhEzhFzg50zh1zh2zh3zh4zh5zh6zh7zh8zh9zhAzhB",
   "zhCzhDzhEzhFzg60zh1zh2zh3zh4zh5zh6zh7zh8zh9zhAzhBzhCzhDzhEzhFzg70zh1zh2zh3zh4zh5zh6zh7zh8zh9z",
   "hAzhBzhCzhDzhEzhFzg80zh1zh2zh3zh4zh5zh6zh7zh8zh9zhAzhBzhCzhDzhEzhFzg90zh1zh2zh3zh4zh5zh6zh7zh",
   "8zh9zhAzhBzhCzhDzhEzhFzgA0zh1zh2zh3zh4zh5zh6zh7zh8zh9zhAzhBzhCzhDzhEzhFzgB0zh1zh2zh3zh4zh5zh6",
   "zh7zh8zh9zhAzhBzhCzhDzhEzhFzgC0zh1zh2zh3zh4zh5zh6zh7zh8zh9zhAzhBzhCzhDzhEzhFzgD0zh1zh2zh3zh4z",
   "h5tFILLERbMER CURRENCY SYMBOL RIELfDIGIT EIGHTlFIVEmOURlNINElONElSEVENmIXlTHREEmWOlZEROfINDEP",
   "ENDENT VOWEL LYzYxQAAzIzQzUyEyIzIyOO TYPE ONEzgTWOyUzKzUzaVxRYzYfLETTER BAmCAnHAoOnOmDAnOmHAm",
   "KAnHAoOnOmLAnOmMOmNGOnNOnOnYOmPHAoOnOmQAmROmSAnHAnSOmTAnHAoOnOnTHApOmVOmYOfSIGN AHSDAlTTHACAN",
   "lVAKRAHASANYAkBANTOCmRIYOOSANmTHAMASATlEYYALkCAMNUC PII KUUHlOENGkKAKABATlHANlOOMUUTkLEK TOOk",
   "MUUSIKATOANkNIKAHITkPHNAEK MUANkREAHMUKlOBATkSAMYOK SANNYAkTOANDAKHIATlRIISAPkVIRIAMkYUUKALEA",
   "PINTUgYMBOL BEI KOETqROCnUON KOETrROCmDAP KOETqROCp-BEI KOETuROCrUON KOETvROCqMUOY KOETvROCqP",
   "II KOETuROCrRAM KOETvROCmLEK ATTAK BEIxUONwMUOYwPIIxRAMza-BEIzcUONzbMUOYzbPIIwSONmMUOY KOETrR",
   "OCmPATHAMASATnII KOETqROCnRAM KOETrROCq-BEI KOETvROCsUON KOETwROCrMUOY KOETwROCrPII KOETvROCm",
   "TUTEYASATfVOWEL INHERENT AAvQlSIGN AArErIrUqEqIrErIqOErOqUrArUqYrArYbOJKI ABBREVIATION SIGNgD",
   "ANDAhOUBLE DANDAnSECTION MARKgLETTER AoAoIoUnBAoBAoHAnCAoHAnDAoDApDApHAoHAnEnGAoGAoHAnHAnInJA",
   "oJAnKAoHAnLAoLAnMAnNAoGAoNAoYAnOnPAoHAnRAnSAnTAoHAoTApHAnUnVAnYAgSECTION MARKhIGN ANUSVARAlNU",
   "KTAlSHADDAmUKUNlVIRAMAgVOWEL SIGN AAsIsUrErIsIrOrUgWORD SEPARATORbUDAWADI DIGIT EIGHTpFIVEqOU",
   "RpNINEpONEpSEVENqIXpTHREEqWOpZEROjLETTER ArArIrUqBArBArHAqCArHAqDArDAsDAsHArHAqEqGArGArHAqHAq",
   "IrIqJArHArJAqKArHAqLAqMAqNArGArNArYAqOqPArHAqRArRAqSArHAqTArHArTAsHAqUrUqVAqYAjSIGN ANUSVARAo",
   "NUKTAoVIRAMAjVOWEL SIGN AAvIvUuEuIvIuOuUvUaIMONObP SIGNbSSd MARKdING CAT FACE WITH CLOSED EYE",
   "ShFACEl WITH CLOSED EYESrSMILING EYESbTEbWIFRUITaNEELING PERSONbOTaOALAbREAN STANDARD SYMBOLa",
   "RONOS"]

end Gloss.Text.CharName
