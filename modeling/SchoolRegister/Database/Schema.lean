/-! # The schema

The script that creates the tables of the register: students, enrolments and attendance.  It may be
applied again, since it creates only what is missing. -/

namespace SchoolRegister.Database

def schemaLines : List String := [
    "-- School attendance schema (MySQL 8).",
    "CREATE DATABASE IF NOT EXISTS school_db CHARACTER SET utf8mb4 COLLATE utf8mb4_unicode_ci;",
    "USE school_db;",
    "",
    "CREATE TABLE IF NOT EXISTS students (",
    "    student_id INT AUTO_INCREMENT PRIMARY KEY,",
    "    student_number VARCHAR(32) NOT NULL,",
    "    surname VARCHAR(100) NOT NULL,",
    "    name VARCHAR(100) NOT NULL,",
    "    gender VARCHAR(16) NULL,",
    "    UNIQUE KEY uq_students_number (student_number)",
    ") ENGINE=InnoDB;",
    "",
    "CREATE TABLE IF NOT EXISTS enrolments (",
    "    enrol_id INT AUTO_INCREMENT PRIMARY KEY,",
    "    student_id INT NULL,",
    "    class_name VARCHAR(32) NOT NULL,",
    "    term_num INT NOT NULL,",
    "    year INT NOT NULL,",
    "    KEY ix_enrolments_class (class_name, term_num, year),",
    "    CONSTRAINT fk_enrolments_student FOREIGN KEY (student_id) REFERENCES " ++
      "students(student_id) ON DELETE SET NULL",
    ") ENGINE=InnoDB;",
    "",
    "CREATE TABLE IF NOT EXISTS attendance (",
    "    attendance_id INT AUTO_INCREMENT PRIMARY KEY,",
    "    student_id INT NOT NULL,",
    "    class_name VARCHAR(32) NOT NULL,",
    "    term_num INT NOT NULL,",
    "    year INT NOT NULL,",
    "    att_date DATE NOT NULL,",
    "    present TINYINT(1) NOT NULL DEFAULT 0,",
    "    created_at TIMESTAMP NOT NULL DEFAULT CURRENT_TIMESTAMP,",
    "    updated_at TIMESTAMP NOT NULL DEFAULT CURRENT_TIMESTAMP ON UPDATE CURRENT_TIMESTAMP,",
    "    UNIQUE KEY uq_attendance_business_key (student_id, class_name, term_num, " ++
      "year, att_date),",
    "    KEY ix_attendance_class_date (class_name, term_num, year, att_date),",
    "    CONSTRAINT fk_attendance_student FOREIGN KEY (student_id) REFERENCES " ++
      "students(student_id)",
    ") ENGINE=InnoDB;"]

def schema : String := String.join (schemaLines.map (· ++ "\n"))

end SchoolRegister.Database
